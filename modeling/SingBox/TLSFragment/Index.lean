import SingBox.Adapter.Matchers

/-!
# The server name in a ClientHello

`IndexTLSServerName` returns where the server name is. The outer `none` means a panic or no return.
-/

namespace SingBox.TLSFragment
open Slice List

def recordLayerHeaderLen : ℕ := 5

def handshakeHeaderLen : ℕ := 6

def randomDataLen : ℕ := 32

def sessionIDHeaderLen : ℕ := 1

def cipherSuiteHeaderLen : ℕ := 2

def compressMethodHeaderLen : ℕ := 1

def extensionsHeaderLen : ℕ := 2

def extensionHeaderLen : ℕ := 4

def sniExtensionHeaderLen : ℕ := 5

def contentType : UInt8 := 22

def handshakeType : UInt8 := 1

def sniExtensionType : ℕ := 0

def sniNameDNSHostnameType : UInt8 := 0

def tlsVersionBitmask : ℕ := 0xFFFC

def tls13 : ℕ := 0x0304

/-! ### The parser -/

structure MyServerName where
  index : ℕ
  length : ℕ
  serverName : GoString
  extensionsListLengthIndex : ℕ := 0
  deriving DecidableEq

/-- It does not return if the length of an extension overflows. -/
def indexExtensions : ℕ → ℕ → List UInt8 → Option (Option MyServerName)
  | 0, _, _ => none
  | fuel + 1, currentIndex, exs =>
    if exs.length = 0 then some none
    else if exs.length < extensionHeaderLen then some none
    else do
      let exType ← uint16At exs 0
      let exLen ← uint16At exs 2
      if exs.length < extensionHeaderLen + exLen then some none
      else do
        let sex ← slice exs extensionHeaderLen (extensionHeaderLen + exLen)
        if exType = sniExtensionType then
          if sex.length < sniExtensionHeaderLen then some none
          else do
            let sniType ← sex[2]?
            if sniType ≠ sniNameDNSHostnameType then some none
            else do
              let sniLen ← uint16At sex 3
              let sex ← slice sex sniExtensionHeaderLen sex.length
              some (some {
                index := currentIndex + extensionHeaderLen + sniExtensionHeaderLen
                length := sniLen
                serverName := sex })
        else do
          -- the sum is a number of 16 bits
          let exs ← slice exs ((4 + exLen) % 2 ^ 16) exs.length
          indexExtensions fuel (currentIndex + 4 + exLen) exs

def indexTLSServerNameFromExtensions (exs : List UInt8) : Option (Option MyServerName) :=
  if exs.length = 0 then some none
  else if exs.length < extensionsHeaderLen then some none
  else do
    let exsLen ← uint16At exs 0
    let exs ← slice exs extensionsHeaderLen exs.length
    if exs.length < exsLen then some none
    else indexExtensions (exs.length + 1) extensionsHeaderLen exs

def indexTLSServerNameFromHandshake (handshake : List UInt8) : Option (Option MyServerName) :=
  if handshake.length < handshakeHeaderLen + randomDataLen + sessionIDHeaderLen then some none
  else do
    let typ ← handshake[0]?
    if typ ≠ handshakeType then some none
    else do
      let b1 ← handshake[1]?
      let b2 ← handshake[2]?
      let b3 ← handshake[3]?
      let body ← slice handshake 4 handshake.length
      if body.length ≠ b1.toNat * 65536 + b2.toNat * 256 + b3.toNat then some none
      else do
        let tlsVersion ← uint16At handshake 4
        if tlsVersion &&& tlsVersionBitmask ≠ 0x0300 ∧ tlsVersion ≠ tls13 then some none
        else do
          let sessionIDLen ← handshake[38]?
          let currentIndex :=
            handshakeHeaderLen + randomDataLen + sessionIDHeaderLen + sessionIDLen.toNat
          if handshake.length < currentIndex then some none
          else do
            let cipherSuites ← slice handshake currentIndex handshake.length
            if cipherSuites.length < cipherSuiteHeaderLen then some none
            else do
              let csLen ← uint16At cipherSuites 0
              if cipherSuites.length < cipherSuiteHeaderLen + csLen + compressMethodHeaderLen then
                some none
              else do
                let compressMethodLen ← cipherSuites[cipherSuiteHeaderLen + csLen]?
                let currentIndex := currentIndex + (cipherSuiteHeaderLen + csLen +
                  compressMethodHeaderLen + compressMethodLen.toNat)
                if handshake.length < currentIndex then some none
                else do
                  let exs ← slice handshake currentIndex handshake.length
                  match ← indexTLSServerNameFromExtensions exs with
                  | none => some none
                  | some serverName => some (some { serverName with
                      index := serverName.index + currentIndex
                      extensionsListLengthIndex := currentIndex })

def indexTLSServerName (payload : List UInt8) : Option (Option MyServerName) :=
  if payload.length < recordLayerHeaderLen then some none
  else do
    let typ ← payload[0]?
    if typ ≠ contentType then some none
    else do
      let segmentLen ← uint16At payload 3
      if payload.length < recordLayerHeaderLen + segmentLen then some none
      else do
        let handshake ← slice payload recordLayerHeaderLen payload.length
        match ← indexTLSServerNameFromHandshake handshake with
        | none => some none
        | some serverName => some (some { serverName with
            index := serverName.index + recordLayerHeaderLen
            extensionsListLengthIndex :=
              serverName.extensionsListLengthIndex + recordLayerHeaderLen })

/-! ### Its bounds -/

/-- A name that is found is within the bounds. -/
def Found (low high : ℕ) (found : Option MyServerName) : Prop :=
  ∀ serverName ∈ found,
    low ≤ serverName.index ∧ serverName.index + serverName.serverName.length ≤ high

variable {low high currentIndex : ℕ} {found : Option MyServerName} {exs payload : List UInt8}

lemma found_none : Found low high none := nofun

lemma Found.mono {low' high' : ℕ} (h : Found low high found) (hlow : low' ≤ low)
    (hhigh : high ≤ high') : Found low' high' found :=
  fun serverName hfound =>
    ⟨hlow.trans (h serverName hfound).1, (h serverName hfound).2.trans hhigh⟩

lemma returns_indexExtensions {fuel : ℕ} (hfuel : exs.length < fuel) (hlen : exs.length < 2 ^ 16) :
    Returns (indexExtensions fuel currentIndex exs)
      (Found currentIndex (currentIndex + exs.length)) := by
  induction fuel generalizing currentIndex exs with
  | zero => omega
  | succ fuel ih =>
    have hconst : extensionHeaderLen = 4 ∧ sniExtensionHeaderLen = 5 := ⟨rfl, rfl⟩
    rw [indexExtensions]
    refine .ite (fun _ => .of_some found_none) fun _ => .ite (fun _ => .of_some found_none) ?_
    refine fun hheader => (returns_uint16At (by omega)).bind fun exType _ => ?_
    refine (returns_uint16At (by omega)).bind fun exLen hexLen => ?_
    refine .ite (fun _ => .of_some found_none) fun hext => ?_
    refine (returns_slice (by omega) (by omega)).bind fun sex hsex => .ite (fun _ => ?_) fun _ => ?_
    · refine .ite (fun _ => .of_some found_none) fun hsni => ?_
      refine (returns_getElem? (by omega)).bind fun sniType _ => ?_
      refine .ite (fun _ => .of_some found_none) fun _ => ?_
      refine (returns_uint16At (by omega)).bind fun sniLen _ => ?_
      refine (returns_slice (by omega) le_rfl).bind fun name hname => .of_some ?_
      rintro _ ⟨⟩
      dsimp only
      omega
    · -- the sum does not overflow
      rw [Nat.mod_eq_of_lt (by omega)]
      refine (returns_slice (by omega) le_rfl).bind fun rest hrest => ?_
      exact (ih (by omega) (by omega)).imp fun found hfound => hfound.mono (by omega) (by omega)

/-- The payload is one record of the length in its header. -/
structure Complete (payload : List UInt8) : Prop where
  header : recordLayerHeaderLen ≤ payload.length
  segmentLen : uint16At payload 3 = some (payload.length - recordLayerHeaderLen)

lemma Complete.length_lt (h : Complete payload) :
    payload.length < recordLayerHeaderLen + 2 ^ 16 := by
  have hconst : recordLayerHeaderLen = 5 := rfl
  have hheader := h.header
  obtain ⟨n, hn, hlt⟩ := returns_uint16At (b := payload) (i := 3) (by omega)
  have hlen : payload.length - recordLayerHeaderLen = n :=
    Option.some.inj (h.segmentLen.symm.trans hn)
  omega

end SingBox.TLSFragment
