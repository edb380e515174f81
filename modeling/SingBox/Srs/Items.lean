import SingBox.Srs.Binary

/-!
# Items are read back

Every kind of item is read back from the bytes that are written for it.
-/

namespace SingBox.Srs
open Codec Options List Prefixable OrderedMap UInt8

lemma lt_uint64 {n : ℕ} (h : n < 2 ^ 63) : n < 2 ^ 64 := by
  omega

lemma decodes_readRuleItemString {value : List GoString}
    (h : value.length < 2 ^ 63 ∧ ∀ s ∈ value, s.length < 2 ^ 63) :
    Decodes readRuleItemString (writeUvarint value.length ++ value.flatMap writeBytes) value := by
  have hlen : Decodes readUvarint (writeUvarint value.length) value.length :=
    decodes_readUvarint (lt_uint64 h.1)
  have hstrs : Decodes (readMany unwrapped readBytes value.length 0)
      (value.flatMap writeBytes) value :=
    decodes_readMany value (fun s hs => decodes_readBytes (lt_uint64 (h.2 s hs))) 0
  exact hlen.bind hstrs

lemma decodes_readRuleItemUint8 {value : List UInt8} (h : value.length < 2 ^ 63) :
    Decodes readRuleItemUint8 (writeUvarint value.length ++ value) value :=
  (decodes_readUvarint (lt_uint64 h)).bind (decodes_readFull value)

lemma uint16s_flatMap (value : List UInt16) : uint16s (value.flatMap uint16Bytes) = value := by
  induction value with
  | nil => rfl
  | cons n value ih =>
    have hlt : n.toNat < 65536 := n.toNat_lt
    have hnum : UInt16.ofNat ((ofNat (n.toNat / 256)).toNat * 256 +
        (ofNat n.toNat).toNat) = n := by
      have hhigh : (ofNat (n.toNat / 256)).toNat = n.toNat / 256 := by
        rw [toNat_ofNat']
        exact Nat.mod_eq_of_lt (by omega)
      have hlow : (ofNat n.toNat).toNat = n.toNat % 256 := toNat_ofNat'
      rw [hhigh, hlow, Nat.div_add_mod']
      exact UInt16.ofNat_toNat
    rw [flatMap_cons, uint16Bytes, cons_append, cons_append, nil_append,
      uint16s, hnum, ih]

lemma length_flatMap_uint16Bytes (value : List UInt16) :
    (value.flatMap uint16Bytes).length = 2 * value.length := by
  induction value with
  | nil => rfl
  | cons n value ih =>
    rw [flatMap_cons, length_append, ih, length_cons]
    show 2 + _ = _
    omega

lemma decodes_readRuleItemUint16 {value : List UInt16} (h : value.length < 2 ^ 63) :
    Decodes readRuleItemUint16 (writeUvarint value.length ++ value.flatMap uint16Bytes) value := by
  have hlen : Decodes readUvarint (writeUvarint value.length) value.length :=
    decodes_readUvarint (lt_uint64 h)
  have hbytes := (decodes_readFull (value.flatMap uint16Bytes)).bind_pure uint16s
  rw [uint16s_flatMap, length_flatMap_uint16Bytes] at hbytes
  exact hlen.bind hbytes

lemma addrFromIP_asSlice (address : Option Addr) : Addr.addrFromIP (asSlice address) = address := by
  cases address with
  | none => rfl
  | some a => exact a.addrFromIP_asSlice

lemma decodes_readBytes_asSlice (address : Option Addr) :
    Decodes readBytes (writeBytes (asSlice address)) (asSlice address) := by
  have hlen : (asSlice address).length ≤ 16 := by
    cases address with
    | none => exact Nat.zero_le _
    | some a => exact a.length_asSlice_le
  exact decodes_readBytes (by omega)

lemma prefixFrom_bitsByte (p : Prefixable) : prefixFrom p.addr (bitsByte p.bits).toNat = p := by
  obtain ⟨address, bits, hbits⟩ := p
  cases bits with
  | none =>
    cases address with
    | none => rfl
    | some a =>
      have hbyte : (bitsByte none).toNat = 255 := rfl
      have hlarge : ¬(bitsByte none).toNat ≤ a.bitLen := by
        have hle := a.bitLen_le
        omega
      simp [prefixFrom, dif_neg hlarge]
  | some n =>
    obtain ⟨a, ha, hn⟩ := hbits n rfl
    cases ha
    have hbyte : (bitsByte (some n)).toNat = n := by
      have hle := a.bitLen_le
      rw [bitsByte, toNat_ofNat']
      exact Nat.mod_eq_of_lt (by omega)
    simp [prefixFrom, hbyte, dif_pos hn]

lemma decodes_readPrefix (p : Prefixable) : Decodes readPrefix (writePrefix p) p := by
  refine (decodes_readBytes_asSlice p.addr).bind ?_
  have hbits := (decodes_readByte (bitsByte p.bits)).bind_pure fun bits =>
    prefixFrom p.addr bits.toNat
  rw [prefixFrom_bitsByte] at hbits
  rwa [addrFromIP_asSlice]

def built (value : List (Option Prefixable)) : List (Option Prefixable) :=
  (value.map build).map some

lemma decodes_readPrefixes {value : List (Option Prefixable)} (h : value.length < 2 ^ 63) :
    Decodes readPrefixes (writePrefixes value) (built value) := by
  refine (decodes_readUvarint (lt_uint64 h)).bind ?_
  have hprefixes : Decodes (readMany unwrapped readPrefix value.length 0)
      (value.flatMap fun p => writePrefix (build p)) (value.map build) :=
    decodes_readMany_map value (fun p _ => decodes_readPrefix (build p)) 0
  exact hprefixes.bind_pure (List.map some)

def builtEntries (entries : List (UInt8 × List (Option Prefixable))) :
    List (UInt8 × List (Option Prefixable)) :=
  entries.map fun entry => (entry.1, built entry.2)

lemma decodes_readInterfaceAddress {entry : UInt8 × List (Option Prefixable)}
    (h : entry.2.length < 2 ^ 63) :
    Decodes readInterfaceAddress (writeInterfaceAddress entry) (entry.1, built entry.2) := by
  have hval := (decodes_readPrefixes h).bind_pure fun value => (entry.1, value)
  exact (decodes_readByte entry.1).bind hval

lemma decodes_readInterfaceAddresses {entries : List (UInt8 × List (Option Prefixable))}
    (h : entries.length < 2 ^ 63) (hvalues : ∀ entry ∈ entries, entry.2.length < 2 ^ 63) :
    Decodes readInterfaceAddresses (writeInterfaceAddresses entries)
    (putAll {} (builtEntries entries)) := by
  refine (decodes_readUvarint (lt_uint64 h)).bind ?_
  have hentries : Decodes (readMany unwrapped readInterfaceAddress entries.length 0)
      (entries.flatMap writeInterfaceAddress) (builtEntries entries) :=
    decodes_readMany_map entries
      (fun entry hent => decodes_readInterfaceAddress (hvalues entry hent)) 0
  exact hentries.bind_pure fun entries => putAll {} entries

lemma entries_putAll_builtEntries (map : Option (OrderedMap UInt8 (List (Option Prefixable)))) :
    (putAll {} (builtEntries (entriesOf map))).entries =
    builtEntries (entriesOf map) := by
  have hkeys : (builtEntries (entriesOf map)).map Prod.fst = (entriesOf map).map Prod.fst := by
    rw [builtEntries, map_map]
    rfl
  have hnodup : ((entriesOf map).map Prod.fst).Nodup := by
    cases map with
    | none => exact nodup_nil
    | some map => exact map.nodup
  exact entries_putAll {} _ (by rwa [nil_append, hkeys])

lemma decodes_readIPRange (range : Option Addr × Option Addr) :
    Decodes readIPRange (writeIPRange range) range := by
  refine (decodes_readBytes_asSlice range.1).bind ?_
  have hto := (decodes_readBytes_asSlice range.2).bind_pure fun toBytes =>
    (Addr.addrFromIP (asSlice range.1), Addr.addrFromIP toBytes)
  rw [addrFromIP_asSlice, addrFromIP_asSlice] at hto
  rwa [addrFromIP_asSlice]

lemma decodes_readUint64 {n : ℕ} (h : n < 2 ^ 64) : Decodes readUint64 (bytesOfNat 8 n) n := by
  have hbytes := (decodes_readFull (bytesOfNat 8 n)).bind_pure Addr.natOfBytes
  have hmod : n % 256 ^ 8 = n := Nat.mod_eq_of_lt (by norm_num at h ⊢; omega)
  rwa [length_bytesOfNat, natOfBytes_bytesOfNat, hmod] at hbytes

lemma decodes_readIPSet {set : IPSet} (h : set.length < 2 ^ 63) :
    Decodes readIPSet (writeIPSet set) set := by
  have hlen : Decodes readUint64 (bytesOfNat 8 set.length) set.length :=
    decodes_readUint64 (lt_uint64 h)
  have hranges : Decodes (readMany unwrapped readIPRange set.length 0)
      (set.flatMap writeIPRange) set :=
    decodes_readMany set (fun range _ => decodes_readIPRange range) 0
  exact (decodes_readByte 1).bind (hlen.bind hranges)

end SingBox.Srs
