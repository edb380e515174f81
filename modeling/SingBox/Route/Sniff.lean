import SingBox.Adapter.InboundContext

/-!
# Sniffing

The client is the list of the outcomes of its coming reads. A sniffer may change the metadata even
if it fails.
-/

namespace SingBox

abbrev Bytes := List UInt8

structure PacketBuffer where
  buffer : Bytes
  destination : Socksaddr
deriving DecidableEq

inductive StreamRead where
  | setReadDeadline
  | ok (data : Bytes)
  | error (data : Bytes)
deriving DecidableEq

/-- The outcomes of the coming reads, and what was delivered. -/
structure StreamConn where
  reads : List StreamRead
  delivered : Bytes := []
deriving DecidableEq

inductive PacketRead where
  | packet (packet : PacketBuffer)
  | timeout
  | error
deriving DecidableEq

structure PacketConn where
  reads : List PacketRead
  delivered : List PacketBuffer := []
deriving DecidableEq

abbrev Sniffer (ι : Type) := InboundContext → ι → InboundContext × List SniffError

abbrev StreamSniffer := Sniffer (List Bytes)

abbrev PacketSniffer := Sniffer Bytes

def joinErrors (first second : List SniffError) : List SniffError := (first ++ second).eraseDups

def needsMoreData (errors : List SniffError) : Bool := errors.contains .needMoreData

def trySniffers {ι : Type} : List (Sniffer ι) → InboundContext → ι → List SniffError →
    InboundContext × List SniffError
  | [], metadata, _, errors => (metadata, errors)
  | sniffer :: sniffers, metadata, data, errors =>
    let (metadata, error) := sniffer metadata data
    if error.isEmpty then (metadata, [])
    else trySniffers sniffers metadata data (joinErrors errors error)

variable (action : SniffAction) (metadata : InboundContext)

def sniffSkip : Bool := [25, 465, 587, 143, 993, 110, 995].contains metadata.destination.port

structure PeekedStream where
  conn : StreamConn
  metadata : InboundContext
  buffer : Bytes
  errors : List SniffError

/-- `buffers` is from earlier actions; `first` says that nothing has been read; `errors` are those
of the last attempt. -/
def peekStream (sniffers : List StreamSniffer) (buffers : List Bytes) :
    List StreamRead → Bytes → InboundContext → Bool → Bytes → List SniffError → PeekedStream
  | [], delivered, metadata, first, buffer, errors =>
    -- The client sends nothing more before the deadline.
    ⟨⟨[], delivered⟩, metadata, buffer, if first then [.readPayload] else errors⟩
  | .setReadDeadline :: reads, delivered, metadata, _, buffer, _ =>
    ⟨⟨reads, delivered⟩, metadata, buffer, [.setReadDeadline]⟩
  | .error data :: reads, delivered, metadata, first, buffer, errors =>
    ⟨⟨reads, delivered ++ data⟩, metadata, buffer ++ data, if first then [.readPayload] else errors⟩
  | .ok data :: reads, delivered, metadata, _, buffer, _ =>
    let (metadata, errors) := trySniffers sniffers metadata (buffers ++ [buffer ++ data]) []
    if needsMoreData errors then
      peekStream sniffers buffers reads (delivered ++ data) metadata false (buffer ++ data) errors
    else ⟨⟨reads, delivered ++ data⟩, metadata, buffer ++ data, errors⟩

def peekPacket (sniffers : List PacketSniffer) (metadata : InboundContext) (packet : Bytes) :
    InboundContext × List SniffError :=
  trySniffers sniffers metadata packet []

structure SniffAction where
  snifferNames : List String := []
  streamSniffers : List StreamSniffer := []
  packetSniffers : List PacketSniffer := []
  overrideDestination : Bool := false

structure SniffEnv where
  streamSniffers : List StreamSniffer
  packetSniffers : List PacketSniffer
  quicClientHello : PacketSniffer
  isDomainName : String → Bool

def failedBefore : Bool :=
  metadata.snifferNames == action.snifferNames && !metadata.sniffError.isEmpty &&
    !needsMoreData metadata.sniffError

def quicMoreData : Bool :=
  metadata.snifferNames == action.snifferNames && needsMoreData metadata.sniffError

/-- The destination may be replaced by the domain found. -/
def overrideDestination (env : SniffEnv) (action : SniffAction) (errors : List SniffError)
    (metadata : InboundContext) : InboundContext :=
  if errors.isEmpty && action.overrideDestination && env.isDomainName metadata.domain then
    { metadata with
      destination := { fqdn := metadata.domain, port := metadata.destination.port } }
  else metadata

def skipsStream : Bool := sniffSkip metadata || metadata.protocol != "" ||
    (action.streamSniffers.isEmpty && !action.packetSniffers.isEmpty) ||
      failedBefore action metadata

variable (env : SniffEnv)

def actionSniffStream (action : SniffAction) (metadata : InboundContext)
    (conn : StreamConn) (inputBuffers : List Bytes) :
    InboundContext × StreamConn × Option Bytes :=
  if skipsStream action metadata then (metadata, conn, none)
  else
    let sniffers :=
      if action.streamSniffers.isEmpty then env.streamSniffers else action.streamSniffers
    let peeked := peekStream sniffers inputBuffers conn.reads conn.delivered metadata true [] []
    let metadata := { peeked.metadata with
      snifferNames := action.snifferNames
      sniffError := peeked.errors }
    let metadata := overrideDestination env action peeked.errors metadata
    (metadata, peeked.conn, if peeked.buffer.isEmpty then none else some peeked.buffer)

def skipsPacket : Bool := sniffSkip metadata || metadata.protocol != "" ||
    (action.packetSniffers.isEmpty && !action.streamSniffers.isEmpty) ||
      failedBefore action metadata

def sniffPacket (action : SniffAction) (metadata : InboundContext)
    (packet : Bytes) : InboundContext × List SniffError :=
  let sniffers := if quicMoreData action metadata then [env.quicClientHello]
    else if action.packetSniffers.isEmpty then env.packetSniffers
    else action.packetSniffers
  let (metadata, errors) := peekPacket sniffers metadata packet
  ({ metadata with snifferNames := action.snifferNames, sniffError := errors }, errors)

/-- The first packet that does not ask for more decides. -/
def sniffBuffered (env : SniffEnv) (action : SniffAction) :
    List PacketBuffer → InboundContext → InboundContext × Option (List SniffError)
  | [], metadata => (metadata, none)
  | packet :: packets, metadata =>
    let (metadata, errors) := sniffPacket env action metadata packet.buffer
    if needsMoreData errors then sniffBuffered env action packets metadata
    else (metadata, some errors)

structure SniffedPackets where
  conn : PacketConn
  metadata : InboundContext
  packetBuffers : List PacketBuffer
  fatal : Bool

/-- Until one does not ask for more data or reading times out. -/
def readPackets (env : SniffEnv) (action : SniffAction) :
    List PacketRead → List PacketBuffer → InboundContext → List PacketBuffer → SniffedPackets
  | [], delivered, metadata, packetBuffers => ⟨⟨[], delivered⟩, metadata, packetBuffers, false⟩
  | .timeout :: reads, delivered, metadata, packetBuffers =>
    ⟨⟨reads, delivered⟩, metadata, packetBuffers, false⟩
  | .error :: reads, delivered, metadata, packetBuffers =>
    ⟨⟨reads, delivered⟩, metadata, packetBuffers, true⟩
  | .packet packet :: reads, delivered, metadata, packetBuffers =>
    let (metadata, errors) := sniffPacket env action metadata packet.buffer
    if needsMoreData errors then
      readPackets env action reads (delivered ++ [packet]) metadata (packetBuffers ++ [packet])
    else
      ⟨⟨reads, delivered ++ [packet]⟩, overrideDestination env action errors metadata,
        packetBuffers ++ [packet], false⟩

def actionSniffPacket (action : SniffAction) (metadata : InboundContext)
    (conn : PacketConn) (inputPacketBuffers : List PacketBuffer) : SniffedPackets :=
  if skipsPacket action metadata then ⟨conn, metadata, [], false⟩
  else
    match sniffBuffered env action inputPacketBuffers metadata with
    | (metadata, some errors) =>
      ⟨conn, overrideDestination env action errors metadata, [], false⟩
    | (metadata, none) =>
      readPackets env action conn.reads conn.delivered metadata inputPacketBuffers

end SingBox
