import SingBox.TLSFragment.Index

/-!
# Parsing a ClientHello

The parser of the JA3 fingerprint. As in `TLSFragment`, the outer `none` means that a function
panics or does not return.
-/

namespace SingBox.JA3
open Slice TLSFragment

def ecExtensionHeaderLen : ℕ := 2

def ecpfExtensionHeaderLen : ℕ := 1

def versionExtensionHeaderLen : ℕ := 1

def signatureAlgorithmsExtensionHeaderLen : ℕ := 2

def ecExtensionType : ℕ := 10

def ecpfExtensionType : ℕ := 11

def versionExtensionType : ℕ := 43

def signatureAlgorithmsExtensionType : ℕ := 13

def greaseBitmask : ℕ := 0x0F0F

inductive ParseError where
  | lengthErr (check : ℕ)
  | contentTypeErr
  | versionErr (check : ℕ)
  | handshakeTypeErr
  | sniTypeErr
  deriving DecidableEq

structure ClientHello where
  version : ℕ := 0
  cipherSuites : List ℕ := []
  extensions : List ℕ := []
  ellipticCurves : List ℕ := []
  ellipticCurvePF : List UInt8 := []
  versions : List ℕ := []
  signatureAlgorithms : List ℕ := []
  serverName : GoString := []
  deriving DecidableEq

abbrev Parser := ExceptT ParseError Option

def uint16s (b : List UInt8) (start n : ℕ) : Option (List ℕ) :=
  (List.range n).mapM fun i => uint16At b (start + 2 * i)

variable (j : ClientHello) (sex : List UInt8)

def parseServerName : Parser ClientHello := do
  if sex.length < sniExtensionHeaderLen then throw (.lengthErr 13)
  let sniType ← byteAt sex 2
  let sniLen ← uint16At sex 3
  let sex ← slice sex sniExtensionHeaderLen sex.length
  if sex.length ≠ sniLen then throw (.lengthErr 14)
  if sniType ≠ sniNameDNSHostnameType then throw .sniTypeErr
  return { j with serverName := sex }

def parseSupportedGroups : Parser ClientHello := do
  if sex.length < ecExtensionHeaderLen then throw (.lengthErr 15)
  let ecsLen ← uint16At sex 0
  let sex ← slice sex ecExtensionHeaderLen sex.length
  if sex.length ≠ ecsLen then throw (.lengthErr 16)
  let ellipticCurves ← uint16s sex 0 (ecsLen / 2)
  return { j with ellipticCurves }

def parseECPointFormats : Parser ClientHello := do
  if sex.length < ecpfExtensionHeaderLen then throw (.lengthErr 17)
  let ecpfsLen ← byteAt sex 0
  let sex ← slice sex ecpfExtensionHeaderLen sex.length
  if sex.length ≠ ecpfsLen.toNat then throw (.lengthErr 18)
  let ellipticCurvePF ← (List.range ecpfsLen.toNat).mapM fun i => byteAt sex i
  return { j with ellipticCurvePF }

/-- Its length is not compared with that of the extension. -/
def parseSupportedVersions : Parser ClientHello := do
  if sex.length < versionExtensionHeaderLen then throw (.lengthErr 19)
  let versionsLen ← byteAt sex 0
  let versions ← uint16s sex 1 ((versionsLen.toNat + 1) / 2)
  return { j with versions := j.versions ++ versions }

/-- Its length is not compared with that of the extension. -/
def parseSignatureAlgorithms : Parser ClientHello := do
  if sex.length < signatureAlgorithmsExtensionHeaderLen then throw (.lengthErr 20)
  let ssaLen ← uint16At sex 0
  let signatureAlgorithms ← uint16s sex 2 ((ssaLen + 1) / 2)
  return { j with signatureAlgorithms := j.signatureAlgorithms ++ signatureAlgorithms }

def parseExtension (exType : ℕ) (sex : List UInt8) : Parser ClientHello :=
  if exType = sniExtensionType then parseServerName j sex
  else if exType = ecExtensionType then parseSupportedGroups j sex
  else if exType = ecpfExtensionType then parseECPointFormats j sex
  else if exType = versionExtensionType then parseSupportedVersions j sex
  else if exType = signatureAlgorithmsExtensionType then parseSignatureAlgorithms j sex
  else return j

def parseExtensionList : ℕ → ClientHello → List UInt8 → Parser ClientHello
  | 0, _, _ => liftM (none : Option ClientHello)
  | fuel + 1, j, exs =>
    if exs.length = 0 then return j
    else do
      if exs.length < extensionHeaderLen then throw (.lengthErr 11)
      let exType ← uint16At exs 0
      let exLen ← uint16At exs 2
      if exs.length < extensionHeaderLen + exLen then throw (.lengthErr 12)
      let sex ← slice exs extensionHeaderLen (extensionHeaderLen + exLen)
      let j ← parseExtension { j with extensions := j.extensions ++ [exType] } exType sex
      -- the sum is a number of 16 bits
      let exs ← slice exs ((4 + exLen) % 2 ^ 16) exs.length
      parseExtensionList fuel j exs

def parseExtensions (exs : List UInt8) : Parser ClientHello :=
  if exs.length = 0 then return j
  else do
    if exs.length < extensionsHeaderLen then throw (.lengthErr 9)
    let exsLen ← uint16At exs 0
    let exs ← slice exs extensionsHeaderLen exs.length
    if exs.length < exsLen then throw (.lengthErr 10)
    parseExtensionList (exs.length + 1) j exs

def parseHandshake (hs : List UInt8) : Parser ClientHello := do
  if hs.length < handshakeHeaderLen + randomDataLen + sessionIDHeaderLen then throw (.lengthErr 3)
  let handshType ← byteAt hs 0
  if handshType ≠ handshakeType then throw .handshakeTypeErr
  let b1 ← byteAt hs 1
  let b2 ← byteAt hs 2
  let b3 ← byteAt hs 3
  let body ← slice hs 4 hs.length
  if body.length ≠ b1.toNat * 65536 + b2.toNat * 256 + b3.toNat then throw (.lengthErr 4)
  let tlsVersion ← uint16At hs 4
  if tlsVersion &&& tlsVersionBitmask ≠ 0x0300 ∧ tlsVersion ≠ tls13 then throw (.versionErr 2)
  let sessionIDLen ← byteAt hs 38
  let start := handshakeHeaderLen + randomDataLen + sessionIDHeaderLen + sessionIDLen.toNat
  if hs.length < start then throw (.lengthErr 5)
  let cs ← slice hs start hs.length
  if cs.length < cipherSuiteHeaderLen then throw (.lengthErr 6)
  let csLen ← uint16At cs 0
  if cs.length < cipherSuiteHeaderLen + csLen + compressMethodHeaderLen then throw (.lengthErr 7)
  let cipherSuites ← uint16s cs 2 (csLen / 2)
  let compressMethodLen ← byteAt cs (cipherSuiteHeaderLen + csLen)
  let exsStart := cipherSuiteHeaderLen + csLen + compressMethodHeaderLen + compressMethodLen.toNat
  if cs.length < exsStart then throw (.lengthErr 8)
  let exs ← slice cs exsStart cs.length
  parseExtensions { j with version := tlsVersion, cipherSuites } exs

def parseSegment (segment : List UInt8) : Parser ClientHello := do
  if segment.length < recordLayerHeaderLen then throw (.lengthErr 1)
  let contType ← byteAt segment 0
  if contType ≠ contentType then throw .contentTypeErr
  let tlsRecordVersion ← uint16At segment 1
  if tlsRecordVersion &&& tlsVersionBitmask ≠ 0x0300 ∧ tlsRecordVersion ≠ tls13 then
    throw (.versionErr 1)
  let segmentLen ← uint16At segment 3
  let body ← slice segment recordLayerHeaderLen segment.length
  if body.length < segmentLen then throw (.lengthErr 2)
  let hs ← slice segment recordLayerHeaderLen (recordLayerHeaderLen + segmentLen)
  parseHandshake j hs

def compute (payload : List UInt8) : Option (Except ParseError ClientHello) :=
  (parseSegment {} payload).run

lemma compute_empty : compute [22, 3, 3, 0, 0] = some (.error (.lengthErr 3)) := by
  decide +kernel

end SingBox.JA3
