import SingBox.Adapter.Bytes

/-!
# Spoofed TCP segments with a wrong checksum

The wrong checksum is the complement of the right one, and 0 has two representations.
-/

namespace SingBox.TLSSpoof
open List Relation

/-! ### Checksums -/

/-- The sum of 16-bit words; an odd byte at the end is the high one. -/
def wordSum : List UInt8 → ℕ
  | [] => 0
  | [a] => a.toNat * 256
  | a :: b :: data => a.toNat * 256 + b.toNat + wordSum data

def fold (n : ℕ) : ℕ := if n = 0 then 0 else (n - 1) % 0xFFFF + 1

def checksum (data : List UInt8) (initial : ℕ) : ℕ := fold (initial + wordSum data)

def combine (a b : ℕ) : ℕ := fold (a + b)

def pseudoHeaderChecksum (protocol : UInt8) (src dst : Addr) (totalLen : ℕ) : ℕ :=
  checksum [0, protocol]
    (checksum (bytesOfNat 2 totalLen) (checksum dst.asSlice (checksum src.asSlice 0)))

/-! ### The segment -/

structure AddrPort where
  addr : Addr
  port : ℕ

structure SpoofPacketInfo where
  seqNum : ℕ
  ackNum : ℕ
  corrupt : Bool := false
  options : List UInt8 := []

def tcpHeaderLen : ℕ := 20

def tcpFields (src dst : AddrPort) (info : SpoofPacketInfo) : List UInt8 :=
  bytesOfNat 2 src.port ++ bytesOfNat 2 dst.port ++ bytesOfNat 4 info.seqNum ++
    bytesOfNat 4 info.ackNum ++
    [UInt8.ofNat ((tcpHeaderLen + info.options.length) / 4 * 16), 0x18, 0xFF, 0xFF]

def segment (src dst : AddrPort) (info : SpoofPacketInfo) (payload : List UInt8) (sum : ℕ) :
    List UInt8 :=
  tcpFields src dst info ++ (bytesOfNat 2 sum ++ ([0, 0] ++ (info.options ++ payload)))

def encodeTCP (src dst : AddrPort) (info : SpoofPacketInfo) (payload : List UInt8) : List UInt8 :=
  let dataOffset := (tcpHeaderLen + info.options.length) / 4 * 4
  let pseudo := pseudoHeaderChecksum 6 src.addr dst.addr ((dataOffset + payload.length) % 2 ^ 16)
  let tcpChecksum := 0xFFFF - checksum ((segment src dst info payload 0).take dataOffset)
    (combine pseudo (checksum payload 0))
  segment src dst info payload (if info.corrupt then 0xFFFF - tcpChecksum else tcpChecksum)

/-- The receiver accepts a segment with the sum `0xFFFF`. -/
def receivedSum (src dst : Addr) (tcp : List UInt8) : ℕ :=
  checksum tcp (pseudoHeaderChecksum 6 src dst (tcp.length % 2 ^ 16))

lemma fold_le (n : ℕ) : fold n ≤ 0xFFFF := by
  unfold fold
  split_ifs <;> omega

lemma fold_add_fold (a b : ℕ) : fold (a + fold b) = fold (a + b) := by
  simp only [fold]
  split_ifs <;> omega

lemma fold_eq_iff {n : ℕ} : fold n = 0xFFFF ↔ 0 < n ∧ n % 0xFFFF = 0 := by
  unfold fold
  split_ifs with h
  · simp [h]
  · omega

/-- Because `0xFFFF` is odd. -/
lemma fold_add_self (n : ℕ) : fold (n + n) = 0xFFFF ↔ fold n = 0xFFFF := by
  have hdvd : 0xFFFF ∣ 2 * n ↔ 0xFFFF ∣ n :=
    ⟨Nat.Coprime.dvd_of_dvd_mul_left (by decide), fun h => Nat.dvd_mul_left_of_dvd h 2⟩
  rw [Nat.dvd_iff_mod_eq_zero, Nat.dvd_iff_mod_eq_zero, Nat.two_mul] at hdvd
  simp [fold_eq_iff, hdvd]

lemma wordSum_append {data data' : List UInt8} (h : data.length % 2 = 0) :
    wordSum (data ++ data') = wordSum data + wordSum data' := by
  induction data using wordSum.induct with
  | case1 => exact (zero_add _).symm
  | case2 a => cases h
  | case3 a b data ih =>
    rw [length_cons, length_cons, add_assoc, Nat.add_mod_right] at h
    rw [cons_append, cons_append, wordSum, wordSum, ih h]
    omega

lemma wordSum_bytesOfNat {n : ℕ} (h : n ≤ 0xFFFF) : wordSum (bytesOfNat 2 n) = n := by
  simp only [bytesOfNat, wordSum, UInt8.toNat_ofNat']
  omega

variable (src dst : AddrPort) (info : SpoofPacketInfo) (payload : List UInt8)

lemma length_tcpFields : (tcpFields src dst info).length = 16 := by simp [tcpFields]

lemma receivedSum_segment {sum : ℕ} (h : sum ≤ 0xFFFF) (hoptions : info.options = []) :
    receivedSum src.addr dst.addr (segment src dst info payload sum) =
    fold (pseudoHeaderChecksum 6 src.addr dst.addr ((20 + payload.length) % 2 ^ 16) +
        (wordSum (tcpFields src dst info) + (sum + wordSum payload))) := by
  have hlen : (segment src dst info payload sum).length = 20 + payload.length := by
    simp only [segment, hoptions, length_append, length_tcpFields, length_bytesOfNat]
    simp only [length_cons, length_nil]
    omega
  rw [receivedSum, hlen, checksum, segment, wordSum_append (by rw [length_tcpFields]),
    wordSum_append (by rw [length_bytesOfNat]), wordSum_bytesOfNat h, hoptions]
  simp [wordSum]

/-- It is accepted exactly if the right checksum is 0. -/
theorem receivedSum_encodeTCP_iff (seqNum ackNum : ℕ) :
    receivedSum src.addr dst.addr (encodeTCP src dst ⟨seqNum, ackNum, true, []⟩ payload) = 0xFFFF ↔
      receivedSum src.addr dst.addr (segment src dst ⟨seqNum, ackNum, true, []⟩ payload 0) =
        0xFFFF := by
  generalize hinfo : SpoofPacketInfo.mk seqNum ackNum true [] = info
  have hoptions : info.options = [] := hinfo ▸ rfl
  have hcorrupt : info.corrupt = true := hinfo ▸ rfl
  have htake : wordSum ((segment src dst info payload 0).take 20) =
      wordSum (tcpFields src dst info) := by
    have hle : (tcpFields src dst info).length ≤ 20 := by
      rw [length_tcpFields]
      omega
    rw [segment, hoptions, take_append, length_tcpFields, take_of_length_le hle,
      wordSum_append (by rw [length_tcpFields])]
    simp [bytesOfNat, wordSum]
  simp only [encodeTCP, hoptions, hcorrupt, if_true, tcpHeaderLen, length_nil, add_zero,
    Nat.reduceDiv, Nat.reduceMul, checksum, combine, htake, zero_add]
  rw [Nat.sub_sub_self (fold_le _), receivedSum_segment _ _ _ _ (fold_le _) hoptions,
    receivedSum_segment _ _ _ _ (Nat.zero_le _) hoptions]
  generalize pseudoHeaderChecksum 6 src.addr dst.addr _ = pseudo
  generalize wordSum (tcpFields src dst info) = fields
  generalize wordSum payload = data
  have hsum : fold (fold (pseudo + fold data) + fields) =
      fold (pseudo + (fields + (0 + data))) := by
    rw [fold_add_fold, add_comm, fold_add_fold]
    congr 1
    omega
  rw [hsum]
  generalize htotal : pseudo + (fields + (0 + data)) = total
  have hreceived : pseudo + (fields + (fold total + data)) = total + fold total := by omega
  rw [hreceived, fold_add_fold, fold_add_self]

/-- The right checksum is 0, and the wrong one is `0xFFFF`. -/
theorem receivedSum_encodeTCP_zero :
    receivedSum (.v4 0) (.v4 0) (encodeTCP ⟨.v4 0, 0⟩ ⟨.v4 0, 0⟩ ⟨0xAFCD, 0, true, []⟩ []) =
      0xFFFF := by
  decide +kernel

/-! ### Timestamps -/

def optionEOL : UInt8 := 0

def optionNOP : UInt8 := 1

def optionTS : UInt8 := 8

def optionTSLength : ℕ := 10

variable (tcpOptions : List UInt8) (timestamp : UInt32)

/-- It panics if there are less than four bytes. -/
def putUint32 (i : ℕ) : Option (List UInt8) :=
  if i + 4 ≤ tcpOptions.length then
    some (tcpOptions.take i ++ bytesOfNat 4 timestamp.toNat ++ tcpOptions.drop (i + 4))
  else none

/-- The loop from `i` on: the options afterwards, and the result. An access outside panics. -/
def rewriteFrom (i : ℕ) : Option (List UInt8 × Bool) :=
  if i < tcpOptions.length then
    match tcpOptions[i]? with
    | none => none
    | some kind =>
      if kind = optionEOL then some (tcpOptions, false)
      else if kind = optionNOP then rewriteFrom (i + 1)
      else if tcpOptions.length ≤ i + 1 then some (tcpOptions, false)
      else
        match tcpOptions[i + 1]? with
        | none => none
        | some optionLen =>
          if optionLen.toNat < 2 ∨ tcpOptions.length < i + optionLen.toNat then
            some (tcpOptions, false)
          else if kind = optionTS ∧ optionLen.toNat = optionTSLength then
            (putUint32 tcpOptions timestamp (i + 2)).map (·, true)
          else rewriteFrom (i + optionLen.toNat)
  else some (tcpOptions, false)
termination_by tcpOptions.length - i

def rewriteTCPOptionTimestamp : Option (List UInt8 × Bool) := rewriteFrom tcpOptions timestamp 0

/-- The index of the next option, if the one at `i` is well formed. -/
def nextOption (i : ℕ) : Option ℕ :=
  match tcpOptions[i]?, tcpOptions[i + 1]? with
  | some kind, optionLen =>
    if kind = optionEOL then none
    else if kind = optionNOP then some (i + 1)
    else optionLen.bind fun len =>
      if 2 ≤ len.toNat ∧ i + len.toNat ≤ tcpOptions.length then some (i + len.toNat) else none
  | none, _ => none

/-- Walking the options from one index leads to another. -/
def Walks : ℕ → ℕ → Prop := ReflTransGen fun i j => nextOption tcpOptions i = some j

def TimestampAt (i : ℕ) : Prop :=
  tcpOptions[i]? = some optionTS ∧ (tcpOptions[i + 1]?).map UInt8.toNat = some optionTSLength ∧
    i + optionTSLength ≤ tcpOptions.length

/-- Nothing is changed and no timestamp is reached, or only the first one that is. -/
def Rewritten (i : ℕ) (result : Option (List UInt8 × Bool)) : Prop :=
  result = some (tcpOptions, false) ∧ (∀ j, Walks tcpOptions i j → ¬TimestampAt tcpOptions j) ∨
  ∃ j, Walks tcpOptions i j ∧ TimestampAt tcpOptions j ∧
    (∀ k, Walks tcpOptions i k → TimestampAt tcpOptions k → j ≤ k) ∧
    result = some (tcpOptions.take (j + 2) ++ bytesOfNat 4 timestamp.toNat ++
      tcpOptions.drop (j + 6), true)

variable {b : List UInt8} {timestamp} {i j : ℕ} {result : Option (List UInt8 × Bool)}

lemma Walks.le (h : Walks b i j) : i ≤ j := by
  induction h with
  | refl => exact le_rfl
  | tail _ hnext ih =>
    refine ih.trans ?_
    unfold nextOption at hnext
    grind

lemma rewritten_of_not (hi : ¬TimestampAt b i)
    (hnone : nextOption b i = none → result = some (b, false))
    (hsome : ∀ k, nextOption b i = some k → Rewritten b timestamp k result) :
    Rewritten b timestamp i result := by
  have hwalks {j : ℕ} (hj : Walks b i j) (hts : TimestampAt b j) :
      ∃ k, nextOption b i = some k ∧ Walks b k j :=
    (ReflTransGen.cases_head hj).resolve_left fun heq => hi (heq ▸ hts)
  cases hnext : nextOption b i with
  | none =>
    refine .inl ⟨hnone hnext, fun j hj hts => ?_⟩
    obtain ⟨k, hk, -⟩ := hwalks hj hts
    exact nomatch hnext.symm.trans hk
  | some k =>
    have hfrom {j : ℕ} (hj : Walks b i j) (hts : TimestampAt b j) : Walks b k j := by
      obtain ⟨k', hk', hj⟩ := hwalks hj hts
      rwa [Option.some.inj (hnext.symm.trans hk')]
    obtain ⟨hresult, hno⟩ | ⟨j, hj, hts, hfirst, hresult⟩ := hsome k hnext
    · exact .inl ⟨hresult, fun j hj hts => hno j (hfrom hj hts) hts⟩
    · exact .inr ⟨j, .head hnext hj, hts, fun k hk hts => hfirst k (hfrom hk hts) hts, hresult⟩

lemma rewritten_rewriteFrom (i : ℕ) : Rewritten b timestamp i (rewriteFrom b timestamp i) := by
  fun_induction rewriteFrom b timestamp i with
  | case1 i hlt hkind => simp [hlt] at hkind
  | case2 i hlt hkind =>
    exact rewritten_of_not (by simp [TimestampAt, hkind, optionEOL, optionTS]) (fun _ => rfl)
      (by simp [nextOption, hkind])
  | case3 i hlt hkind heol ih =>
    exact rewritten_of_not (by simp [TimestampAt, hkind, optionNOP, optionTS])
      (by simp [nextOption, hkind, heol]) (by simpa [nextOption, hkind, heol] using ih)
  | case4 i hlt kind hkind heol hnop hend =>
    exact rewritten_of_not (by simp [TimestampAt, hend]) (fun _ => rfl)
      (by simp [nextOption, hkind, heol, hnop, hend])
  | case5 i hlt kind hkind heol hnop hend hlen => exact absurd (getElem?_eq_none_iff.1 hlen) hend
  | case6 i hlt kind hkind heol hnop hend len hlen hbad =>
    refine rewritten_of_not ?_ (fun _ => rfl) fun k hk => ?_
    · simp only [TimestampAt, hlen, optionTSLength, Option.map_some, Option.some_inj]
      omega
    · simp only [nextOption, hkind, hlen, heol, hnop, if_false, Option.bind_some] at hk
      rw [if_neg (by omega)] at hk
      cases hk
  | case7 i hlt kind hkind heol hnop hend len hlen hgood hts =>
    obtain ⟨rfl, hts⟩ := hts
    have hroom : i + 10 ≤ b.length := by
      rw [hts, optionTSLength] at hgood
      omega
    refine .inr ⟨i, .refl, ⟨hkind, by simp [hlen, hts], hroom⟩, fun k hk _ => hk.le, ?_⟩
    rw [putUint32, if_pos (by omega)]
    rfl
  | case8 i hlt kind hkind heol hnop hend len hlen hgood hts ih =>
    have hnext : nextOption b i = some (i + len.toNat) := by
      simp only [nextOption, hkind, hlen, heol, hnop, if_false, Option.bind_some]
      exact if_pos (by omega)
    refine rewritten_of_not ?_ (by simp [hnext]) (by simpa [hnext] using ih)
    simp only [TimestampAt, hkind, hlen, Option.some_inj, Option.map_some]
    exact fun h => hts ⟨h.1, h.2.1⟩
  | case9 i hlt =>
    have hnone : b[i]? = none := getElem?_eq_none (not_lt.1 hlt)
    exact rewritten_of_not (by simp [TimestampAt, hnone]) (fun _ => rfl)
      (by simp [nextOption, hnone])

/-- The call returns whatever the options are, and changes at most the first timestamp. -/
theorem rewriteTCPOptionTimestamp_rewritten (tcpOptions : List UInt8) (timestamp : UInt32) :
    Rewritten tcpOptions timestamp 0 (rewriteTCPOptionTimestamp tcpOptions timestamp) :=
  rewritten_rewriteFrom 0

def tcpTimestampBackdate : UInt32 := 3600000

def spoofedTimestamp (timestamp : UInt32) : UInt32 :=
  if timestamp > tcpTimestampBackdate then timestamp - tcpTimestampBackdate else 0

def buildWrongTimestampOptions (timestamp : UInt32) (tcpOptions : List UInt8) :
    Option (List UInt8) :=
  (rewriteTCPOptionTimestamp tcpOptions (spoofedTimestamp timestamp)).map fun (options, found) =>
    if found then options
    else [optionTS, .ofNat optionTSLength] ++ bytesOfNat 4 (spoofedTimestamp timestamp).toNat ++
      replicate 6 0

/-- This is the first timestamp that a receiver finds. -/
def FirstTimestamp (options : List UInt8) (value : UInt32) : Prop :=
  ∃ j, Walks options 0 j ∧ TimestampAt options j ∧
    (∀ k, Walks options 0 k → TimestampAt options k → j ≤ k) ∧
    (options.drop (j + 2)).take 4 = bytesOfNat 4 value.toNat

variable {b' : List UInt8} {k : ℕ}

/-- Walking up to `j` looks only at bytes before `j + 2`. -/
lemma Walks.congr (h : Walks b 0 k) (hk : k ≤ j) (hlen : b'.length = b.length)
    (hsame : ∀ i < j + 2, b'[i]? = b[i]?) : Walks b' 0 k := by
  induction h with
  | refl => exact .refl
  | tail _ hnext ih =>
    have hle := Walks.le (.single hnext)
    refine .tail (ih (hle.trans hk)) ?_
    unfold nextOption at hnext ⊢
    rwa [hsame _ (by omega), hsame _ (by omega), hlen]

lemma firstTimestamp_of_rewritten (hj : Walks b 0 j) (hts : TimestampAt b j)
    (hfirst : ∀ k, Walks b 0 k → TimestampAt b k → j ≤ k)
    (hb' : b' = b.take (j + 2) ++ bytesOfNat 4 timestamp.toNat ++ b.drop (j + 6)) :
    FirstTimestamp b' timestamp ∧ b'.length = b.length := by
  have hroom : j + 10 ≤ b.length := hts.2.2
  have hlen : b'.length = b.length := by
    simp [hb']
    omega
  have hsame : ∀ i < j + 2, b'[i]? = b[i]? := by
    intro i hi
    rw [hb', append_assoc, getElem?_append_left (by simp; omega), getElem?_take_of_lt hi]
  have hat : ∀ k ≤ j, TimestampAt b' k ↔ TimestampAt b k := by
    intro k hk
    rw [TimestampAt, TimestampAt, hsame _ (by omega), hsame _ (by omega), hlen]
  refine ⟨⟨j, hj.congr le_rfl hlen hsame, (hat j le_rfl).2 hts, fun k hk hts => ?_, ?_⟩, hlen⟩
  · by_contra! hlt
    have hold := hk.congr hlt.le hlen.symm fun i hi => (hsame i hi).symm
    exact hlt.not_ge (hfirst k hold ((hat k hlt.le).1 hts))
  · rw [hb', append_assoc, drop_append_of_le_length (by simp; omega)]
    simp

/-- Whatever the options are, the receiver finds a timestamp that is an hour earlier or 0. -/
theorem buildWrongTimestampOptions_first (timestamp : UInt32) (tcpOptions : List UInt8) :
    ∃ options value, buildWrongTimestampOptions timestamp tcpOptions = some options ∧
      FirstTimestamp options value ∧ value.toNat = timestamp.toNat - 3600000 ∧
      (options.length = tcpOptions.length ∨
        options =
          [optionTS, .ofNat optionTSLength] ++ bytesOfNat 4 value.toNat ++ replicate 6 0) := by
  have hvalue : (spoofedTimestamp timestamp).toNat = timestamp.toNat - 3600000 := by
    unfold spoofedTimestamp
    split_ifs with h
    · exact UInt32.toNat_sub_of_le _ _ (UInt32.le_of_lt h)
    · exact (Nat.sub_eq_zero_of_le (Nat.not_lt.1 h)).symm
  unfold buildWrongTimestampOptions rewriteTCPOptionTimestamp
  have hrewritten : Rewritten tcpOptions (spoofedTimestamp timestamp) 0 _ := rewritten_rewriteFrom 0
  obtain ⟨hresult, -⟩ | ⟨j, hj, hts, hfirst, hresult⟩ := hrewritten
  · rw [hresult]
    refine ⟨_, _, rfl, ⟨0, .refl, ?_, fun _ _ _ => Nat.zero_le _, ?_⟩, hvalue, .inr rfl⟩ <;>
      simp [TimestampAt, optionTSLength]
  · obtain ⟨hone, hlen⟩ := firstTimestamp_of_rewritten hj hts hfirst rfl
    exact ⟨_, _, by rw [hresult]; rfl, hone, hvalue, .inl hlen⟩

/-! ### The five methods -/

inductive Method where
  | wrongSequence
  | wrongChecksum
  | wrongAcknowledgment
  | wrongMD5Sig
  | wrongTimestamp
deriving DecidableEq

def buildMD5SignatureOptions : List UInt8 := [19, 18] ++ replicate 18 0

/-- The numbers are modulo 2³². The error for an unknown method cannot occur here. -/
def resolveSpoofPacketInfo (method : Method) (sendNext receiveNext timestamp : UInt32)
    (tcpOptions payload : List UInt8) : Option SpoofPacketInfo :=
  let packetInfo : SpoofPacketInfo := { seqNum := sendNext.toNat, ackNum := receiveNext.toNat }
  match method with
  | .wrongSequence => some { packetInfo with seqNum := (sendNext - .ofNat payload.length).toNat }
  | .wrongChecksum => some { packetInfo with corrupt := true }
  | .wrongAcknowledgment => some { packetInfo with ackNum := (receiveNext - 0x7FFF).toNat }
  | .wrongMD5Sig => some { packetInfo with options := buildMD5SignatureOptions }
  | .wrongTimestamp => (buildWrongTimestampOptions timestamp tcpOptions).map fun options =>
    { packetInfo with options }

/-- No method panics, and only one corrupts the checksum; its segment has no options. -/
lemma resolveSpoofPacketInfo_corrupt (method : Method) (sendNext receiveNext timestamp : UInt32)
    (tcpOptions payload : List UInt8) :
    ∃ info, resolveSpoofPacketInfo method sendNext receiveNext timestamp tcpOptions payload =
        some info ∧
      (info.corrupt = true ↔ method = .wrongChecksum) ∧
      (info.corrupt = true → info.options = []) := by
  cases method with
  | wrongTimestamp =>
    have hrewritten : Rewritten tcpOptions (spoofedTimestamp timestamp) 0 _ :=
      rewritten_rewriteFrom 0
    obtain ⟨hresult, -⟩ | ⟨_, _, _, _, hresult⟩ := hrewritten <;>
      simp [resolveSpoofPacketInfo, buildWrongTimestampOptions, rewriteTCPOptionTimestamp, hresult]
  | _ => exact ⟨_, rfl, by simp, by simp⟩

end SingBox.TLSSpoof
