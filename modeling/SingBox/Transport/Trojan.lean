import SingBox.Adapter.Bytes
import SingBox.Lib.Codec
import SingBox.Lib.Filling

/-!
# Packets over trojan

A header is written into the room in front of the payload, or for the first packet into a buffer of
its own. What the client writes is compared with fixed bytes, and the server reads the packets back
from those.
-/

namespace SingBox.Trojan
open Codec Filling List

/-! ### The client -/

def keyLength : ℕ := 56

abbrev Key := { bytes : List UInt8 // bytes.length = keyLength }

def commandTCP : UInt8 := 1

def commandUDP : UInt8 := 3

def commandMux : UInt8 := 0x7f

def crlf : List UInt8 := [13, 10]

structure Serializer (Socksaddr : Type) where
  addrPortLen : Socksaddr → ℕ
  writeAddrPort : Socksaddr → Except String (List UInt8)
  readAddrPort : Reader Socksaddr

inductive Failure where
  | panic
  | error (message : String)

structure Buffer where
  front : List UInt8
  bytes : List UInt8

def Buffer.start (b : Buffer) : ℕ := b.front.length

variable {Socksaddr : Type} (serializer : Serializer Socksaddr)

def Buffer.extendHeader (b : Buffer) (n : ℕ) (fill : Filler Failure Unit) : Except Failure Buffer :=
  if b.start < n then .error .panic
  else match fill ⟨[], b.front.drop (b.start - n)⟩ with
    | .error failure => .error failure
    | .ok (_, header) =>
      .ok ⟨b.front.take (b.start - n), header.written ++ header.old ++ b.bytes⟩

def must (m : Filler Failure Unit) : Filler Failure Unit := fun header =>
  match m header with
  | .error _ => .error .panic
  | .ok r => .ok r

def writeHeader (data : List UInt8) : Filler Failure Unit := write (.error "short buffer") data

def writeAddrPort (destination : Socksaddr) : Filler Failure Unit :=
  match serializer.writeAddrPort destination with
  | .error message => fun _ => .error (.error message)
  | .ok bytes => writeHeader bytes

def handshakeHeader (key : Key) (destination : Socksaddr) (payloadLen : ℕ) :
    Filler Failure Unit := do
  must (writeHeader key.1)
  must (writeHeader crlf)
  must (writeHeader [commandUDP])
  writeAddrPort serializer destination
  must (writeHeader crlf)
  must (writeAddrPort serializer destination)
  must (writeHeader (bytesOfNat 2 (payloadLen % 2 ^ 16)))
  must (writeHeader crlf)

def clientHandshakePacket (key : Key) (destination : Socksaddr) (payload : Buffer) :
    Except Failure (List (List UInt8)) :=
  let headerLen := keyLength + 2 * serializer.addrPortLen destination + 9
  let fill := handshakeHeader serializer key destination payload.bytes.length
  if headerLen ≤ payload.start then
    match payload.extendHeader headerLen fill with
    | .error failure => .error failure
    | .ok payload => .ok [payload.bytes]
  else match fill ⟨[], replicate headerLen 0⟩ with
    | .error failure => .error failure
    | .ok (_, header) => .ok [header.written, payload.bytes]

def packetHeader (destination : Socksaddr) (bufferLen : ℕ) : Filler Failure Unit := do
  writeAddrPort serializer destination
  must (writeHeader (bytesOfNat 2 (bufferLen % 2 ^ 16)))
  must (writeHeader crlf)

def writePacket (buffer : Buffer) (destination : Socksaddr) : Except Failure (List (List UInt8)) :=
  match buffer.extendHeader (serializer.addrPortLen destination + 4)
      (packetHeader serializer destination buffer.bytes.length) with
  | .error failure => .error failure
  | .ok buffer => .ok [buffer.bytes]

structure Packet (Socksaddr : Type) where
  buffer : Buffer
  destination : Socksaddr

structure ClientPacketConn where
  key : Key
  headerWritten : Bool := false
  written : List (List UInt8) := []

def ClientPacketConn.writePacket (c : ClientPacketConn) (packet : Packet Socksaddr) :
    Except Failure Unit × ClientPacketConn :=
  if !c.headerWritten then
    match clientHandshakePacket serializer c.key packet.destination packet.buffer with
    | .error failure => (.error failure, { c with headerWritten := true })
    | .ok slices => (.ok (), { c with headerWritten := true, written := c.written ++ slices })
  else match Trojan.writePacket serializer packet.buffer packet.destination with
    | .error failure => (.error failure, c)
    | .ok slices => (.ok (), { c with written := c.written ++ slices })

def ClientPacketConn.writePackets :
    ClientPacketConn → List (Packet Socksaddr) → Except Failure ClientPacketConn
  | c, [] => .ok c
  | c, packet :: packets => match c.writePacket serializer packet with
    | (.error failure, _) => .error failure
    | (.ok _, c) => c.writePackets packets

/-! ### The server -/

section
variable {α K : Type}

def cause (message : String) (read : Reader α) : Reader α := fun input =>
  match read input with
  | .error error => .error (message ++ ": " ++ error)
  | .ok r => .ok r

/-- One `Read` for that many bytes, when `n` bytes have arrived. -/
def connRead (size n : ℕ) : Reader (List UInt8) := fun input =>
  if input.isEmpty then .error "EOF" else .ok (input.take (min size n), input.drop (min size n))

def skipN (n : ℕ) : Reader Unit := fun input =>
  if n ≤ input.length then .ok ((), input.drop n) else .error "EOF"

def readFullFrom (capacity n : ℕ) : Reader (List UInt8) :=
  if capacity < n then fail "short buffer" else readFull n

inductive Request (K Socksaddr : Type) where
  | fallback (header : List UInt8)
  | connection (user : K) (destination : Socksaddr)
  | packetConnection (user : K) (destination : Socksaddr)
  | mux (user : K)

structure Service (K : Type) where
  keys : Key → Option K
  fallbackHandler : Bool

def Service.fallback (service : Service K) (header : List UInt8) (error : String) :
    Reader (Request K Socksaddr) :=
  if service.fallbackHandler then return .fallback header
  else fail (error ++ ": fallback disabled")

def readRequest (user : K) : Reader (Request K Socksaddr) := do
  cause "skip crlf" (skipN 2)
  let command ← cause "read command" readByte
  if command ≠ commandTCP ∧ command ≠ commandUDP ∧ command ≠ commandMux then
    fail ("unknown command " ++ toString command)
  else
    let destination ← cause "read destination" serializer.readAddrPort
    cause "skip crlf" (skipN 2)
    return if command = commandTCP then .connection user destination
      else if command = commandUDP then .packetConnection user destination
      else .mux user

/-- When `n` bytes have arrived at its first call of `Read`. -/
def Service.newConnection (service : Service K) (n : ℕ) : Reader (Request K Socksaddr) := do
  let key ← connRead keyLength n
  if h : key.length = keyLength then
    match service.keys ⟨key, h⟩ with
    | some user => readRequest serializer user
    | none => service.fallback key "bad request"
  else service.fallback key "bad request size"

def readPacket (capacity : ℕ) : Reader (List UInt8 × Socksaddr) := do
  let destination ← cause "read destination" serializer.readAddrPort
  let length ← cause "read chunk length" (readFull 2)
  cause "skip crlf" (skipN 2)
  let payload ← readFullFrom capacity (Addr.natOfBytes length)
  return (payload, destination)

def readPackets : List ℕ → Reader (List (List UInt8 × Socksaddr))
  | [] => return []
  | capacity :: capacities => do
    let packet ← readPacket serializer capacity
    let packets ← readPackets capacities
    return packet :: packets

/-- The service gets a connection and reads packets from it. -/
def Service.serve (service : Service K) (n : ℕ) (capacities : List ℕ) :
    Reader (Request K Socksaddr × List (List UInt8 × Socksaddr)) := do
  let request ← service.newConnection serializer n
  let packets ← readPackets serializer capacities
  return (request, packets)

end

/-- What is written for an address is read back, whatever follows, and has the reserved length. -/
structure Serializer.RoundTrips : Prop where
  decodes : ∀ {destination bytes}, serializer.writeAddrPort destination = .ok bytes →
    Decodes serializer.readAddrPort bytes destination
  length : ∀ {destination bytes}, serializer.writeAddrPort destination = .ok bytes →
    bytes.length = serializer.addrPortLen destination

/-! ### What the client writes -/

def requestBytes (key : Key) (address : List UInt8) : List UInt8 :=
  key.1 ++ (crlf ++ ([commandUDP] ++ (address ++ crlf)))

def headerBytes (address : List UInt8) (length : ℕ) : List UInt8 :=
  address ++ (bytesOfNat 2 (length % 2 ^ 16) ++ crlf)

def packetBytes (packet : Packet Socksaddr) : List UInt8 :=
  match serializer.writeAddrPort packet.destination with
  | .error _ => []
  | .ok address => headerBytes address packet.buffer.bytes.length ++ packet.buffer.bytes

variable {serializer} {bytes : List UInt8}

lemma fills_must {m : Filler Failure Unit} (h : Fills m bytes) : Fills (must m) bytes := by
  intro written old hle
  rw [must, h written old hle]

variable {destination : Socksaddr} {address : List UInt8}

lemma fills_writeAddrPort (h : serializer.writeAddrPort destination = .ok address) :
    Fills (writeAddrPort serializer destination) address := by
  rw [writeAddrPort, h]
  exact fills_write _ _

variable {header header' : Region}

lemma writeAddrPort_ok (h : writeAddrPort serializer destination header = .ok ((), header')) :
    ∃ address, serializer.writeAddrPort destination = .ok address := by
  cases haddr : serializer.writeAddrPort destination with
  | error message =>
    rw [writeAddrPort, haddr] at h
    cases h
  | ok address => exact ⟨address, rfl⟩

lemma fills_packetHeader (h : serializer.writeAddrPort destination = .ok address) (length : ℕ) :
    Fills (packetHeader serializer destination length) (headerBytes address length) :=
  (fills_writeAddrPort h).bind ((fills_must (fills_write _ _)).bind (fills_must (fills_write _ _)))

variable {key : Key}

lemma fills_handshakeHeader (h : serializer.writeAddrPort destination = .ok address) (length : ℕ) :
    Fills (handshakeHeader serializer key destination length)
    (requestBytes key address ++ headerBytes address length) := by
  have hwrite : ∀ data, Fills (must (writeHeader data)) data := fun data =>
    fills_must (fills_write _ data)
  have haddr := fills_writeAddrPort h
  have hfills : Fills (handshakeHeader serializer key destination length) _ :=
    (hwrite key.1).bind <| (hwrite crlf).bind <| (hwrite [commandUDP]).bind <|
      haddr.bind <| (hwrite crlf).bind <| (fills_must haddr).bind <|
      (hwrite (bytesOfNat 2 (length % 2 ^ 16))).bind (hwrite crlf)
  convert hfills using 1
  simp [requestBytes, headerBytes]

variable {length n : ℕ} {b : Buffer} {fill : Filler Failure Unit}

lemma packetHeader_ok (h : packetHeader serializer destination length header = .ok ((), header')) :
    ∃ address, serializer.writeAddrPort destination = .ok address := by
  obtain ⟨_, haddr, -⟩ := bind_ok h
  exact writeAddrPort_ok haddr

lemma handshakeHeader_ok
    (h : handshakeHeader serializer key destination length header = .ok ((), header')) :
    ∃ address, serializer.writeAddrPort destination = .ok address := by
  obtain ⟨_, -, h⟩ := bind_ok h
  obtain ⟨_, -, h⟩ := bind_ok h
  obtain ⟨_, -, h⟩ := bind_ok h
  obtain ⟨_, haddr, -⟩ := bind_ok h
  exact writeAddrPort_ok haddr

lemma extendHeader_eq (hfill : Fills fill bytes) (hlen : bytes.length = n) (hst : n ≤ b.start) :
    b.extendHeader n fill = .ok ⟨b.front.take (b.start - n), bytes ++ b.bytes⟩ := by
  have hroom : (b.front.drop (b.start - n)).length = n := by
    rw [length_drop, ← Buffer.start]
    omega
  have hold : (b.front.drop (b.start - n)).drop bytes.length = [] :=
    drop_eq_nil_of_le (by rw [hroom, hlen])
  rw [Buffer.extendHeader, if_neg (not_lt.2 hst),
    hfill [] (b.front.drop (b.start - n)) (by rw [hroom, hlen]), hold]
  simp

lemma extendHeader_ok {b' : Buffer} (h : b.extendHeader n fill = .ok b') :
    n ≤ b.start ∧ ∃ header header', fill header = .ok ((), header') := by
  unfold Buffer.extendHeader at h
  split_ifs at h with hst
  split at h
  · cases h
  · exact ⟨Nat.le_of_not_lt hst, _, _, ‹_›⟩

lemma length_bytesOfNat_crlf : (bytesOfNat 2 n ++ crlf).length = 4 := by
  rw [length_append, length_bytesOfNat]
  rfl

section
variable (hserializer : serializer.RoundTrips)
include hserializer

lemma length_headerBytes (h : serializer.writeAddrPort destination = .ok address) (length : ℕ) :
    (headerBytes address length).length = serializer.addrPortLen destination + 4 := by
  rw [headerBytes, length_append, length_bytesOfNat_crlf, hserializer.length h]

lemma length_requestBytes (h : serializer.writeAddrPort destination = .ok address) :
    (requestBytes key address).length = keyLength + serializer.addrPortLen destination + 5 := by
  simp only [requestBytes, length_append, key.2, hserializer.length h, crlf, length_cons,
    length_nil]
  omega

variable {packet : Packet Socksaddr} {slices : List (List UInt8)} {n capacity : ℕ} {K : Type}

lemma writePacket_eq (h : serializer.writeAddrPort packet.destination = .ok address)
    (hst : serializer.addrPortLen packet.destination + 4 ≤ packet.buffer.start) :
    writePacket serializer packet.buffer packet.destination =
    .ok [packetBytes serializer packet] := by
  rw [writePacket, extendHeader_eq (fills_packetHeader h _)
    (length_headerBytes hserializer h _) hst, packetBytes, h]

lemma clientHandshakePacket_eq (key : Key)
    (h : serializer.writeAddrPort packet.destination = .ok address) :
    ∃ slices, clientHandshakePacket serializer key packet.destination packet.buffer = .ok slices ∧
    slices.flatten = requestBytes key address ++ packetBytes serializer packet := by
  have hfills : Fills (handshakeHeader serializer key packet.destination
      packet.buffer.bytes.length) _ := fills_handshakeHeader h _
  have hlen : (requestBytes key address ++ headerBytes address packet.buffer.bytes.length).length =
      keyLength + 2 * serializer.addrPortLen packet.destination + 9 := by
    rw [length_append, length_requestBytes hserializer h, length_headerBytes hserializer h]
    omega
  unfold clientHandshakePacket
  dsimp only
  split_ifs with hst
  · rw [extendHeader_eq hfills hlen hst]
    exact ⟨_, rfl, by simp [packetBytes, h]⟩
  · rw [hfills [] _ (by rw [length_replicate, hlen])]
    exact ⟨_, rfl, by simp [packetBytes, h]⟩

omit hserializer in
lemma clientHandshakePacket_ok {payload : Buffer}
    (h : clientHandshakePacket serializer key destination payload = .ok slices) :
    ∃ address, serializer.writeAddrPort destination = .ok address := by
  unfold clientHandshakePacket at h
  dsimp only at h
  split_ifs at h
  · split at h
    · cases h
    · obtain ⟨-, _, _, hfill⟩ := extendHeader_ok ‹_›
      exact handshakeHeader_ok hfill
  · split at h
    · cases h
    · exact handshakeHeader_ok ‹_›

omit hserializer in
lemma writePacket_ok {buffer : Buffer}
    (h : writePacket serializer buffer destination = .ok slices) :
    serializer.addrPortLen destination + 4 ≤ buffer.start ∧
    ∃ address, serializer.writeAddrPort destination = .ok address := by
  unfold writePacket at h
  split at h
  · cases h
  · obtain ⟨hst, _, _, hfill⟩ := extendHeader_ok ‹_›
    exact ⟨hst, packetHeader_ok hfill⟩

namespace ClientPacketConn
variable {c c' : ClientPacketConn} {packet : Packet Socksaddr}

lemma writePacket_first (hwr : c.headerWritten = false)
    (h : serializer.writeAddrPort packet.destination = .ok address) :
    ∃ slices, c.writePacket serializer packet =
    (.ok (), { c with headerWritten := true, written := c.written ++ slices }) ∧
    slices.flatten = requestBytes c.key address ++ packetBytes serializer packet := by
  obtain ⟨slices, hslices, hflat⟩ := clientHandshakePacket_eq hserializer c.key h
  refine ⟨slices, ?_, hflat⟩
  simp [writePacket, hwr, hslices]

lemma writePacket_later (hwr : c.headerWritten)
    (h : serializer.writeAddrPort packet.destination = .ok address)
    (hst : serializer.addrPortLen packet.destination + 4 ≤ packet.buffer.start) :
    c.writePacket serializer packet =
    (.ok (), { c with written := c.written ++ [packetBytes serializer packet] }) := by
  simp only [writePacket, hwr, writePacket_eq hserializer h hst, Bool.not_true,
    Bool.false_eq_true, if_false]

omit hserializer in
lemma writePacket_ok (h : c.writePacket serializer packet = (.ok (), c')) :
    (∃ address, serializer.writeAddrPort packet.destination = .ok address) ∧ (c.headerWritten →
        serializer.addrPortLen packet.destination + 4 ≤ packet.buffer.start) := by
  unfold writePacket at h
  split_ifs at h with hwr
  · split at h
    · cases h
    · exact ⟨clientHandshakePacket_ok ‹_›, fun htrue => by simp [htrue] at hwr⟩
  · split at h
    · cases h
    · obtain ⟨hst, haddr⟩ := Trojan.writePacket_ok ‹_›
      exact ⟨haddr, fun _ => hst⟩

variable {packets : List (Packet Socksaddr)}

omit hserializer in
lemma writePackets_cons (h : c.writePackets serializer (packet :: packets) = .ok c') :
    ∃ middle, c.writePacket serializer packet = (.ok (), middle) ∧
    middle.writePackets serializer packets = .ok c' := by
  rw [writePackets] at h
  split at h
  · cases h
  · exact ⟨_, ‹_›, h⟩

lemma writePackets_later (hwr : c.headerWritten) (h : c.writePackets serializer packets = .ok c') :
    c'.written.flatten = c.written.flatten ++ packets.flatMap (packetBytes serializer) ∧
    ∀ packet ∈ packets, ∃ address, serializer.writeAddrPort packet.destination = .ok address := by
  induction packets generalizing c with
  | nil =>
    obtain rfl : c = c' := Except.ok.inj h
    simp
  | cons packet packets ih =>
    obtain ⟨middle, hpkt, hpkts⟩ := writePackets_cons h
    obtain ⟨⟨address, haddr⟩, hst⟩ := writePacket_ok hpkt
    rw [writePacket_later hserializer hwr haddr (hst hwr)] at hpkt
    obtain rfl := (Prod.mk.inj hpkt).2
    obtain ⟨hflat, hrest⟩ :=
      ih (c := { c with written := c.written ++ [packetBytes serializer packet] }) hwr hpkts
    refine ⟨?_, forall_mem_cons.2 ⟨⟨address, haddr⟩, hrest⟩⟩
    rw [hflat]
    simp

variable {first : Packet Socksaddr} {rest : List (Packet Socksaddr)}

lemma writePackets_eq (h : writePackets serializer { key } (first :: rest) = .ok c) :
    ∃ address, serializer.writeAddrPort first.destination = .ok address ∧ c.written.flatten =
    requestBytes key address ++ (first :: rest).flatMap (packetBytes serializer) ∧
    ∀ packet ∈ rest, ∃ address, serializer.writeAddrPort packet.destination = .ok address := by
  obtain ⟨middle, hfst, hrest⟩ := writePackets_cons h
  obtain ⟨⟨address, haddr⟩, -⟩ := writePacket_ok hfst
  obtain ⟨slices, hslices, hflat⟩ := writePacket_first hserializer (c := { key }) rfl haddr
  rw [hslices] at hfst
  obtain rfl := (Prod.mk.inj hfst).2
  obtain ⟨hflat', hdests⟩ := writePackets_later hserializer rfl hrest
  refine ⟨address, haddr, ?_, hdests⟩
  rw [hflat', nil_append, hflat, flatMap_cons, append_assoc]

lemma exists_writePackets_later (hwr : c.headerWritten) (hpkts : ∀ packet ∈ packets,
      (∃ address, serializer.writeAddrPort packet.destination = .ok address) ∧
        serializer.addrPortLen packet.destination + 4 ≤ packet.buffer.start) :
    ∃ c', c.writePackets serializer packets = .ok c' := by
  induction packets generalizing c with
  | nil => exact ⟨c, rfl⟩
  | cons packet packets ih =>
    obtain ⟨⟨⟨address, haddr⟩, hst⟩, hrest⟩ := forall_mem_cons.1 hpkts
    rw [writePackets, writePacket_later hserializer hwr haddr hst]
    exact ih hwr hrest

lemma exists_writePackets
    (hfst : ∃ address, serializer.writeAddrPort first.destination = .ok address)
    (hrest : ∀ packet ∈ rest,
      (∃ address, serializer.writeAddrPort packet.destination = .ok address) ∧
        serializer.addrPortLen packet.destination + 4 ≤ packet.buffer.start) :
    ∃ c, writePackets serializer { key } (first :: rest) = .ok c := by
  obtain ⟨address, haddr⟩ := hfst
  obtain ⟨slices, hslices, -⟩ := writePacket_first hserializer (c := { key }) rfl haddr
  rw [writePackets, hslices]
  exact exists_writePackets_later hserializer rfl hrest

end ClientPacketConn

/-! ### What the server reads -/

omit hserializer in
lemma decodes_cause {α : Type} {read : Reader α} {a : α}
    (h : Decodes read bytes a) (message : String) : Decodes (cause message read) bytes a := by
  intro rest
  rw [cause, h rest]

omit hserializer in
lemma decodes_skipN (bytes : List UInt8) : Decodes (skipN bytes.length) bytes () := by
  intro rest
  rw [skipN, if_pos (by simp), drop_left]

omit hserializer in
lemma decodes_connRead {size : ℕ} (hsize : bytes.length = size)
    (hne : bytes ≠ []) (hn : size ≤ n) : Decodes (connRead size n) bytes bytes := by
  intro rest
  have hemp : ¬(bytes ++ rest).isEmpty := by simp [hne]
  rw [connRead, if_neg hemp, Nat.min_eq_left hn, ← hsize, take_left, drop_left]

omit hserializer in
lemma decodes_readFullFrom (h : bytes.length ≤ capacity) :
    Decodes (readFullFrom capacity bytes.length) bytes bytes := by
  rw [readFullFrom, if_neg (not_lt.2 h)]
  exact decodes_readFull bytes

lemma decodes_readRequest (user : K) (h : serializer.writeAddrPort destination = .ok address) :
    Decodes (readRequest serializer user) (crlf ++ ([commandUDP] ++ (address ++ crlf)))
    (.packetConnection user destination) := by
  have hcrlf : Decodes (cause "skip crlf" (skipN 2)) crlf () := decodes_cause (decodes_skipN crlf) _
  have hcommand : Decodes (cause "read command" readByte) [commandUDP] commandUDP :=
    decodes_cause (decodes_readByte _) _
  have hdest := decodes_cause (hserializer.decodes h) "read destination"
  refine hcrlf.bind (hcommand.bind ?_)
  -- the command is known
  rw [if_neg (by decide)]
  refine hdest.bind ?_
  rw [if_neg (by decide), if_pos rfl]
  exact hcrlf.bind_pure fun _ => Request.packetConnection user destination

lemma decodes_newConnection {service : Service K} {user : K}
    (hkey : service.keys key = some user) (hn : keyLength ≤ n)
    (h : serializer.writeAddrPort destination = .ok address) :
    Decodes (service.newConnection serializer n) (requestBytes key address)
    (.packetConnection user destination) := by
  have hne : key.1 ≠ [] := by
    intro hnil
    have hlen := key.2
    rw [hnil] at hlen
    cases hlen
  refine (decodes_connRead key.2 hne hn).bind ?_
  rw [dif_pos key.2]
  simp only [hkey]
  exact decodes_readRequest hserializer user h

lemma decodes_readPacket (h : serializer.writeAddrPort packet.destination = .ok address)
    (hlen : packet.buffer.bytes.length ≤ 65535) (hcap : packet.buffer.bytes.length ≤ capacity) :
    Decodes (readPacket serializer capacity) (packetBytes serializer packet)
    (packet.buffer.bytes, packet.destination) := by
  have hbytes : packetBytes serializer packet =
      address ++ (bytesOfNat 2 (packet.buffer.bytes.length % 2 ^ 16) ++
        (crlf ++ packet.buffer.bytes)) := by
    simp [packetBytes, h, headerBytes]
  have hnat : Addr.natOfBytes (bytesOfNat 2 (packet.buffer.bytes.length % 2 ^ 16)) =
      packet.buffer.bytes.length := by
    rw [natOfBytes_bytesOfNat]
    omega
  have hfull := decodes_readFull (bytesOfNat 2 (packet.buffer.bytes.length % 2 ^ 16))
  rw [length_bytesOfNat] at hfull
  have hcrlf : Decodes (cause "skip crlf" (skipN 2)) crlf () := decodes_cause (decodes_skipN crlf) _
  rw [hbytes]
  refine (decodes_cause (hserializer.decodes h) _).bind ?_
  refine (decodes_cause hfull _).bind (hcrlf.bind ?_)
  rw [hnat]
  exact (decodes_readFullFrom hcap).bind_pure fun payload => (payload, packet.destination)

lemma decodes_readPackets {packets : List (Packet Socksaddr)} {capacities : List ℕ}
    (hdests : ∀ packet ∈ packets, ∃ address,
      serializer.writeAddrPort packet.destination = .ok address)
    (hlens : ∀ packet ∈ packets, packet.buffer.bytes.length ≤ 65535)
    (hcaps : List.Forall₂ (fun packet capacity => packet.buffer.bytes.length ≤ capacity)
      packets capacities) :
    Decodes (readPackets serializer capacities) (packets.flatMap (packetBytes serializer))
    (packets.map fun packet => (packet.buffer.bytes, packet.destination)) := by
  induction hcaps with
  | nil => exact .pure []
  | cons hcap _ ih =>
    obtain ⟨⟨address, haddr⟩, hdests⟩ := forall_mem_cons.1 hdests
    obtain ⟨hlen, hlens⟩ := forall_mem_cons.1 hlens
    rw [flatMap_cons]
    exact (decodes_readPacket hserializer haddr hlen hcap).bind
      ((ih hdests hlens).bind_pure fun packets => _ :: packets)

end

/-- Packets are written if destinations can be and later ones have room for headers. A service that
knows the key reads them back. -/
theorem serve_writePackets (h : serializer.RoundTrips) {K : Type} (service : Service K) (key : Key)
    (user : K) (hkey : service.keys key = some user) (n : ℕ) (hn : keyLength ≤ n)
    (first : Packet Socksaddr) (rest : List (Packet Socksaddr))
    (hlengths : ∀ packet ∈ first :: rest, packet.buffer.bytes.length ≤ 65535) (capacities : List ℕ)
    (hcapacities : List.Forall₂ (fun packet capacity => packet.buffer.bytes.length ≤ capacity)
      (first :: rest) capacities) :
    ((∃ address, serializer.writeAddrPort first.destination = .ok address) →
      (∀ packet ∈ rest, (∃ address, serializer.writeAddrPort packet.destination = .ok address) ∧
        serializer.addrPortLen packet.destination + 4 ≤ packet.buffer.start) →
      ∃ c, ClientPacketConn.writePackets serializer { key } (first :: rest) = .ok c) ∧
    ∀ c, ClientPacketConn.writePackets serializer { key } (first :: rest) = .ok c →
      (∃ address, c.written.flatten =
        requestBytes key address ++ (first :: rest).flatMap (packetBytes serializer)) ∧
      Decodes (service.serve serializer n capacities) c.written.flatten
        (.packetConnection user first.destination,
          (first :: rest).map fun packet => (packet.buffer.bytes, packet.destination)) := by
  refine ⟨ClientPacketConn.exists_writePackets h, fun c hwrite => ?_⟩
  obtain ⟨address, haddr, hflat, hrest⟩ := ClientPacketConn.writePackets_eq h hwrite
  refine ⟨⟨address, hflat⟩, ?_⟩
  have hdests : ∀ packet ∈ first :: rest, ∃ address,
      serializer.writeAddrPort packet.destination = .ok address :=
    forall_mem_cons.2 ⟨⟨address, haddr⟩, hrest⟩
  have hpkts := decodes_readPackets h hdests hlengths hcapacities
  rw [hflat]
  exact (decodes_newConnection h hkey hn haddr).bind (hpkts.bind_pure fun packets => (_, packets))

/-- Domain names of one letter with the port 80. -/
def letterSerializer : Serializer UInt8 where
  addrPortLen _ := 5
  writeAddrPort letter := .ok [3, 1, letter, 0, 80]
  readAddrPort
    | 3 :: 1 :: letter :: 0 :: 80 :: rest => .ok (letter, rest)
    | _ => .error "unknown address family"

theorem serve_writePackets_letters :
    let key : Key := ⟨replicate keyLength 97, length_replicate⟩
    let service : Service ℕ := ⟨fun _ => some 1, false⟩
    let first : Packet UInt8 := ⟨⟨[], [1, 2, 3]⟩, 120⟩
    let second : Packet UInt8 := ⟨⟨replicate 9 0, []⟩, 121⟩
    ∃ c, ClientPacketConn.writePackets letterSerializer { key } [first, second] = .ok c ∧
      Decodes (service.serve letterSerializer 60 [1500, 1500]) c.written.flatten
        (.packetConnection 1 120, [([1, 2, 3], 120), ([], 121)]) := by
  intro key service first second
  have hroundTrips : letterSerializer.RoundTrips := by
    constructor
    · intro letter bytes hbytes rest
      rw [← Except.ok.inj hbytes]
      rfl
    · intro letter bytes hbytes
      rw [← Except.ok.inj hbytes]
      rfl
  obtain ⟨hexists, hserve⟩ := serve_writePackets hroundTrips service key 1 rfl 60 (by decide)
    first [second] (by decide) [1500, 1500] (by simp [first, second])
  obtain ⟨c, hc⟩ := hexists ⟨_, rfl⟩ (by simp [second, letterSerializer, Buffer.start])
  exact ⟨c, hc, (hserve c hc).2⟩

end SingBox.Trojan
