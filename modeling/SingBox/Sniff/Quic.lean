import SingBox.Adapter.InboundContext
import SingBox.JA3.Parser
import SingBox.Lib.Codec

/-!
# The QUIC sniffer

`QUICClientHello` decrypts an Initial packet and puts its CRYPTO frames together with those of
earlier ones. It may panic or not return.
-/

namespace SingBox.QUIC
open Codec Slice

def versionDraft29 : ℕ := 0xff00001d

def version1 : ℕ := 1

def version2 : ℕ := 0x6b3343cf

/-! ### The header -/

/-- The first two bits of the first byte encode the length. -/
def readUvarint : Reader ℕ := do
  let firstByte ← readByte
  let len := 1 <<< ((firstByte &&& 0xc0) >>> 6).toNat
  let b1 := (firstByte &&& (0xff - 0xc0)).toNat
  if len = 1 then pure b1
  else do
    let b2 ← readByte
    if len = 2 then pure (b2.toNat + b1 <<< 8)
    else do
      let b3 ← readByte
      let b4 ← readByte
      if len = 4 then pure (b4.toNat + b3.toNat <<< 8 + b2.toNat <<< 16 + b1 <<< 24)
      else do
        let b5 ← readByte
        let b6 ← readByte
        let b7 ← readByte
        let b8 ← readByte
        pure (b8.toNat + b7.toNat <<< 8 + b6.toNat <<< 16 + b5.toNat <<< 24 + b4.toNat <<< 32 +
          b3.toNat <<< 40 + b2.toNat <<< 48 + b1 <<< 56)

variable (b : List UInt8) (l : List ℕ) (n : ℕ)

def discard : Reader Unit := fun input =>
  if n ≤ input.length then .ok ((), input.drop n) else .error "EOF"

def blockSize : ℕ := 16

def overhead : ℕ := 16

def nonceSize : ℕ := 8

structure Ciphers where
  encrypt : (versionNumber : ℕ) → (destConnID sample : List UInt8) → List UInt8
  openData : (versionNumber : ℕ) → (destConnID nonce data additionalData : List UInt8) →
    Option (List UInt8)
  length_encrypt : ∀ versionNumber destConnID sample,
    (encrypt versionNumber destConnID sample).length = blockSize
  length_openData : ∀ versionNumber destConnID nonce data additionalData plaintext,
    openData versionNumber destConnID nonce data additionalData = some plaintext →
      plaintext.length + overhead = data.length

structure LongHeader where
  versionNumber : ℕ
  destConnID : List UInt8
  packetLen : ℕ

def readLongHeader : Reader LongHeader := do
  let typeByte ← readByte
  if typeByte &&& 0x40 = 0 then fail "bad type byte"
  let version ← readFull 4
  let versionNumber := Addr.natOfBytes version
  if versionNumber ≠ versionDraft29 ∧ versionNumber ≠ version1 ∧ versionNumber ≠ version2 then
    fail "bad version"
  let packetType := (typeByte &&& 0x30) >>> 4
  if packetType = 0 ∧ versionNumber = version2 ∨ packetType = 2 ∧ versionNumber ≠ version2 ∨
      packetType > 2 then
    fail "bad packet type"
  let destConnIDLen ← readByte
  if destConnIDLen = 0 ∨ destConnIDLen > 20 then fail "bad destination connection id length"
  let destConnID ← readFull destConnIDLen.toNat
  let srcConnIDLen ← readByte
  discard srcConnIDLen.toNat
  let tokenLen ← readUvarint
  discard tokenLen
  let packetLen ← readUvarint
  pure { versionNumber, destConnID, packetLen }

structure Header extends LongHeader where
  hdrLen : ℕ
  pnBytes : List UInt8

variable (ciphers : Ciphers) (packet : List UInt8)

def readHeader : Reader Header := do
  let header ← readLongHeader
  let rest ← get
  let hdrLen := packet.length - rest.length
  if hdrLen + header.packetLen > packet.length then fail "invalid argument"
  else do
    discard 4
    let pnBytes ← readFull blockSize
    pure { header with hdrLen, pnBytes }

abbrev Sniff := ExceptT SniffError Option

def runReader {α : Type} (read : Reader α) (bytes : List UInt8) : Sniff (α × List UInt8) :=
  match read bytes with
  | .error message => throw (.sniffer message)
  | .ok r => pure r

def xorAt (i : ℕ) (x : UInt8) : Option (List UInt8) := do
  let y ← byteAt b i
  some (b.set i (y ^^^ x))

def unprotect (mask : List UInt8) (hdrLen : ℕ) : Option (List UInt8) := do
  let first ← byteAt mask 0
  let newPacket ← xorAt packet 0 (first &&& 0xf)
  let window ← slice newPacket hdrLen (hdrLen + 4)
  (List.range window.length).foldlM (fun newPacket i => do
    let x ← byteAt mask (i + 1)
    xorAt newPacket (hdrLen + i) x) newPacket

def beUint : Option ℕ := do
  let bytes ← slice b 0 n
  some (Addr.natOfBytes bytes)

/-! ### Decryption -/

def readPacketNumber (newPacket : List UInt8) (hdrLen : ℕ) : ℕ → Sniff ℕ
  | 1 => do
    let b ← byteAt newPacket hdrLen
    pure b.toNat
  | 2 => do
    let b ← slice newPacket hdrLen newPacket.length
    beUint b 2
  | 3 => do
    let b3 ← byteAt newPacket (hdrLen + 2)
    let b2 ← byteAt newPacket (hdrLen + 1)
    let b1 ← byteAt newPacket hdrLen
    pure (b3.toNat ||| b2.toNat <<< 8 ||| b1.toNat <<< 16)
  | 4 => do
    let b ← slice newPacket hdrLen newPacket.length
    beUint b 4
  | _ => throw (.sniffer "bad packet number length")

def copyAt (low high : ℕ) (source : List UInt8) : Option (List UInt8) := do
  let target ← slice b low high
  let n := min target.length source.length
  some (b.take low ++ source.take n ++ b.drop (low + n))

def putNonce (packetNumber : ℕ) : Option (List UInt8) := do
  let nonce := List.replicate nonceSize 0
  let tail ← slice nonce (nonce.length - 8) nonce.length
  let number ← slice tail 0 8
  some (nonce.take (nonce.length - 8) ++ bytesOfNat number.length packetNumber)

/-- Decrypted in the memory of a copy of the packet. -/
def decrypt : Sniff (View UInt8) := do
  let (header, _) ← runReader (readHeader packet) packet
  let mask := ciphers.encrypt header.versionNumber header.destConnID header.pnBytes
  let newPacket ← unprotect packet mask header.hdrLen
  let first ← byteAt newPacket 0
  let packetNumberLength := (first &&& 0x3).toNat + 1
  if header.hdrLen + packetNumberLength > header.packetLen + header.hdrLen then
    throw (.sniffer "invalid argument")
  else do
    let packetNumber ← readPacketNumber newPacket header.hdrLen packetNumberLength
    let extHdrLen := header.hdrLen + packetNumberLength
    let source ← slice packet extHdrLen packet.length
    let newPacket ← copyAt newPacket extHdrLen (header.hdrLen + 4) source
    let data ← slice newPacket extHdrLen (header.packetLen + header.hdrLen)
    let nonce ← putNonce packetNumber
    let out ← (View.ofList newPacket).slice extHdrLen extHdrLen
    let additionalData ← slice newPacket 0 extHdrLen
    match ciphers.openData header.versionNumber header.destConnID nonce data additionalData with
    | none => throw (.sniffer "cipher: message authentication failed")
    | some plaintext => pure (out.append plaintext)

def frameTypePadding : UInt8 := 0x00

def frameTypePing : UInt8 := 0x01

def frameTypeAck : UInt8 := 0x02

def frameTypeAck2 : UInt8 := 0x03

def frameTypeCrypto : UInt8 := 0x06

def frameTypeConnectionClose : UInt8 := 0x1c

/-! ### The frames -/

structure QCryptoFragment where
  offset : ℕ
  length : ℕ
  payload : View UInt8
  deriving DecidableEq

inductive Frame where
  | plain
  | crypto (offset length : ℕ)
  | connectionClose (length : ℕ)

def readAckRanges : ℕ → Reader Unit
  | 0 => pure ()
  | n + 1 => do
    let _ ← readUvarint
    let _ ← readUvarint
    readAckRanges n

variable (frameType : UInt8)

def readAck : Reader Frame := do
  let _ ← readUvarint
  let _ ← readUvarint
  let ackRangeCount ← readUvarint
  let _ ← readUvarint
  readAckRanges ackRangeCount
  if frameType = frameTypeAck2 then do
    let _ ← readUvarint
    let _ ← readUvarint
    let _ ← readUvarint
    pure .plain
  else pure .plain

def readFrame : Reader Frame := if frameType = frameTypePadding then pure .plain
  else if frameType = frameTypePing then pure .plain
  else if frameType = frameTypeAck ∨ frameType = frameTypeAck2 then readAck frameType
  else if frameType = frameTypeCrypto then do
    let offset ← readUvarint
    let length ← readUvarint
    pure (.crypto offset length)
  else if frameType = frameTypeConnectionClose then do
    let _ ← readUvarint
    let _ ← readUvarint
    let length ← readUvarint
    pure (.connectionClose length)
  else fail "invalid argument"

structure Frames where
  frameTypeList : List UInt8 := []
  fragments : List QCryptoFragment := []

/-- It may be moved beyond the end, where it has no bytes. -/
def readFrames (decrypted : View UInt8) : ℕ → List UInt8 → Frames → Sniff Frames
  | 0, _, _ => liftM (none : Option Frames)
  | _ + 1, [], frames => pure frames
  | fuel + 1, frameType :: rest, frames => do
    let frameTypeList := frames.frameTypeList ++ [frameType]
    let (frame, rest) ← runReader (readFrame frameType) rest
    match frame with
    | .plain => readFrames decrypted fuel rest { frames with frameTypeList }
    | .crypto offset length => do
      let index := decrypted.length - rest.length
      let payload ← decrypted.slice index (index + length)
      let fragments := frames.fragments ++ [{ offset, length, payload }]
      readFrames decrypted fuel (rest.drop length) { frameTypeList, fragments }
    | .connectionClose length =>
      readFrames decrypted fuel (rest.drop length) { frames with frameTypeList }

def readPayload (decrypted : View UInt8) : Sniff Frames :=
  readFrames decrypted (decrypted.length + 1) decrypted.toList {}

/-! ### Fragments -/

/-- A buffer of fixed capacity. What does not fit is left out. -/
structure Buffer where
  bytes : List UInt8 := []
  capacity : ℕ

def Buffer.write (b : Buffer) (data : List UInt8) : Buffer :=
  { b with bytes := b.bytes ++ data.take (b.capacity - b.bytes.length) }

def find (fragments : List QCryptoFragment) : ℕ → ℕ → Buffer → Option Buffer
  | 0, _, _ => none
  | fuel + 1, index, buffer =>
    match fragments.find? (·.offset = index) with
    | none => some buffer
    | some fragment =>
      find fragments fuel (fragment.offset + fragment.length) (buffer.write fragment.payload.toList)

variable (fuel : ℕ)

/-- A record with the data of the fragments, in the given number of rounds. -/
def assemble (fragments : List QCryptoFragment) : Option (List UInt8) :=
  let frameLen := fragments.foldl (fun frameLen fragment => frameLen + fragment.length) 0
  let buffer : Buffer := { capacity := 5 + frameLen }
  let buffer := ((buffer.write [0x16]).write (bytesOfNat 2 0x0303)).write
    (bytesOfNat 2 (frameLen % 2 ^ 16))
  (find fragments fuel 0 buffer).map (·.bytes)

def protocolQUIC : String := "quic"

def clientChromium : String := "chromium"

def clientSafari : String := "safari"

def clientFirefox : String := "firefox"

def clientQUICGo : String := "quic-go"

def clientUnknown : String := "unknown"

def isZero (slices : List UInt8) : Bool := slices.all (· = 0)

def count (slices : List UInt8) (value : UInt8) : ℕ := slices.count value

def x25519Kyber768Draft00 : ℕ := 0x11EC

def extensionRenegotiationInfo : ℕ := 0xFF01

/-! ### The client -/

variable (fingerprint : JA3.ClientHello)

def isQUICGo : Bool := fingerprint.ellipticCurves.contains x25519Kyber768Draft00 ||
    fingerprint.extensions.contains extensionRenegotiationInfo

/-- There are `n` numbers; the first is reserved for testing. -/
def greaseFirst : Option Bool := if l.length = n then do
    let first ← l[0]?
    some (first &&& JA3.greaseBitmask = 0x0A0A)
  else some false

def single : Option Bool := if l.length = 1 then do
    let first ← l[0]?
    some (first = n)
  else some false

def isSafari : Option Bool := do
  let versions ← greaseFirst fingerprint.versions 2
  let curves ← greaseFirst fingerprint.ellipticCurves 5
  let suite ← single fingerprint.cipherSuites 0x1302
  let curve ← single fingerprint.ellipticCurves 29
  let algorithm ← single fingerprint.signatureAlgorithms 0x0403
  some (versions && curves || suite && curve && algorithm)

variable (frameTypeList : List UInt8)

/-- The first frame is a CRYPTO frame and all others are padding. -/
def cryptoFirst : Option Bool := do
  let first ← byteAt frameTypeList 0
  if first = frameTypeCrypto then do
    let rest ← slice frameTypeList 1 frameTypeList.length
    some (isZero rest)
  else some false

/-- The last frame is a CRYPTO frame and all others are padding. -/
def cryptoLast : Option Bool := do
  let last ← byteAt frameTypeList (frameTypeList.length - 1)
  if last = frameTypeCrypto then do
    let rest ← slice frameTypeList 0 (frameTypeList.length - 1)
    some (isZero rest)
  else some false

def detectClient : Option String := if frameTypeList.length = 1 then some clientFirefox
  else do
    let first ← cryptoFirst frameTypeList
    let safari ← isSafari fingerprint
    if first && safari then some clientSafari
    else do
      let last ← cryptoLast frameTypeList
      if last then some clientQUICGo
      else if count frameTypeList frameTypeCrypto > 1 ∨ count frameTypeList frameTypePing > 0 then
        some (if isQUICGo fingerprint then clientQUICGo else clientChromium)
      else some clientUnknown

/-! ### The sniffer -/

structure Metadata where
  protocol : String := ""
  domain : GoString := []
  client : String := ""
  sniffContext : Option (List QCryptoFragment) := none
  deriving DecidableEq

inductive Stop where
  | panic
  /-- The reassembly is not finished in the given number of rounds. -/
  | rounds
  | compute
  deriving DecidableEq

abbrev Result := Except SniffError Unit × Metadata

variable (metadata : Metadata)

def finish (frames : Frames) : Except Stop Result :=
  let fragments := frames.fragments ++ metadata.sniffContext.getD []
  match assemble fuel fragments with
  | none => .error .rounds
  | some buffer =>
    match JA3.compute buffer with
    | none => .error .compute
    | some (.error _) =>
      .ok (.error .needMoreData,
        { metadata with protocol := protocolQUIC, sniffContext := some fragments })
    | some (.ok fingerprint) =>
      let metadata := { metadata with
        protocol := protocolQUIC, domain := fingerprint.serverName, sniffContext := none }
      if metadata.client = "" then
        match detectClient fingerprint frames.frameTypeList with
        | none => .error .panic
        | some client => .ok (.ok (), { metadata with client })
      else .ok (.ok (), metadata)

def quicClientHello (packet : List UInt8) : Except Stop Result :=
  match (decrypt ciphers packet).run with
  | none => .error .panic
  | some (.error error) => .ok (.error error, metadata)
  | some (.ok decrypted) =>
    match (readPayload decrypted).run with
    | none => .error .panic
    | some (.error error) => .ok (.error error, metadata)
    | some (.ok frames) => finish fuel metadata frames

end SingBox.QUIC
