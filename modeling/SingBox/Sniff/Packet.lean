import SingBox.Sniff.QuicBounds
import SingBox.Adapter.Bytes
import SingBox.Route.Sniff

/-!
# The packet sniffers

`PeekPacket` calls the sniffers one after the other until one of them returns no error. The sniffer
of DNS returns none for every message that can be unpacked, and sets the protocol only for a query.
So a response ends the search without a protocol, if no sniffer before it recognises the packet.
-/

namespace SingBox.Sniff
open List
open QUIC (Metadata Stop Result Ciphers plainCiphers)

inductive PacketProtocol where
  | dns
  | quic
  | stun
  | utp
  | udpTracker
  | dtls
  | ntp
deriving DecidableEq

def PacketProtocol.name : PacketProtocol → String
  | .dns => "dns"
  | .quic => QUIC.protocolQUIC
  | .stun => "stun"
  | .utp | .udpTracker => "bittorrent"
  | .dtls => "dtls"
  | .ntp => "ntp"

/-- What is read of a DNS message: the bit of a response and the numbers of records. -/
structure Unpacked where
  response : Bool
  question : ℕ
  answer : ℕ
  ns : ℕ
deriving DecidableEq

/-- The DNS library is an arbitrary function of the data. -/
structure Library where
  unpack : Bytes → Except String Unpacked

/-- `os.ErrInvalid`. -/
def errInvalid : SniffError := .sniffer "invalid argument"

section Checks
variable (packet : Bytes)

def numberAt (i size : ℕ) : ℕ := Addr.natOfBytes ((packet.drop i).take size)

abbrev Checked := Except SniffError Bool

def unlessAny (invalid : List Bool) : Checked :=
  if invalid.any id then .error errInvalid else .ok true

def dnsQuery (library : Library) : Checked :=
  match library.unpack packet with
  | .error message => .error (.sniffer message)
  | .ok msg => .ok (!(msg.response || msg.question == 0 || 0 < msg.answer || 0 < msg.ns))

def stunMessage : Checked :=
  unlessAny [packet.length < 20, numberAt packet 4 4 != 0x2112A442,
    packet.length < 20 + numberAt packet 2 2]

def utpExtensions (extension : ℕ) (reader : Bytes) : Checked :=
  if extension = 0 then .ok true
  else
    match reader with
    | [] => .error (.sniffer "EOF")
    | [next] => .error (if 4 < next.toNat then errInvalid else .sniffer "EOF")
    | next :: length :: reader =>
      if 4 < next.toNat then .error errInvalid
      else utpExtensions next.toNat (reader.drop length.toNat)
termination_by reader.length
decreasing_by
  simp only [length_drop, length_cons]
  omega

def utp : Checked :=
  if packet.length < 20 || numberAt packet 0 1 % 16 != 1 || 4 < numberAt packet 0 1 / 16 then
    .error errInvalid
  else utpExtensions (numberAt packet 1 1) (packet.drop 20)

def udpTracker : Checked :=
  unlessAny [packet.length < 16, numberAt packet 0 8 != 0x41727101980, numberAt packet 8 4 != 0]

def dtlsRecord : Checked :=
  unlessAny [packet.length < 13, !([20, 21, 22, 23, 25].contains (numberAt packet 0 1)),
    numberAt packet 1 1 != 0xfe, numberAt packet 2 1 != 0xff && numberAt packet 2 1 != 0xfd]

/-- The two times are given in parts of 2¹⁶ of a second and may not exceed 16 seconds. -/
def ntp : Checked :=
  let first := numberAt packet 0 1
  unlessAny [packet.length < 48, 3 < first / 64 % 4, first / 8 % 8 != 3 && first / 8 % 8 != 4,
    first % 8 != 3, 16 * 65536 < numberAt packet 4 4, 16 * 65536 < numberAt packet 8 4]

end Checks

variable (library : Library) (ciphers : Ciphers) (fuel : ℕ) (packet : Bytes)

def PacketProtocol.checked (protocol : PacketProtocol) (metadata : Metadata) (result : Checked) :
    Except Stop Result :=
  .ok <| match result with
  | .error err => (.error err, metadata)
  | .ok isSet => (.ok (), if isSet then { metadata with protocol := protocol.name } else metadata)

def PacketProtocol.sniff (protocol : PacketProtocol) (metadata : Metadata) : Except Stop Result :=
  match protocol with
  | .quic => QUIC.quicClientHello ciphers fuel metadata packet
  | .dns => checked .dns metadata (dnsQuery packet library)
  | .stun => checked .stun metadata (stunMessage packet)
  | .utp => checked .utp metadata (Sniff.utp packet)
  | .udpTracker => checked .udpTracker metadata (Sniff.udpTracker packet)
  | .dtls => checked .dtls metadata (dtlsRecord packet)
  | .ntp => checked .ntp metadata (Sniff.ntp packet)

def peekProtocols : List PacketProtocol → Metadata → List SniffError →
    Except Stop (List SniffError × Metadata)
  | [], metadata, errors => .ok (errors, metadata)
  | protocol :: protocols, metadata, errors => do
    match ← protocol.sniff library ciphers fuel packet metadata with
    | (.ok _, metadata) => return ([], metadata)
    | (.error err, metadata) => peekProtocols protocols metadata (errors ++ [err])

variable {library ciphers fuel packet} {metadata sniffed : Metadata}

lemma protocol_quicClientHello
    (h : QUIC.quicClientHello ciphers fuel metadata packet = .ok (.ok (), sniffed)) :
    sniffed.protocol = QUIC.protocolQUIC := by
  unfold QUIC.quicClientHello QUIC.finish at h
  dsimp only at h
  repeat' split at h
  all_goals cases h
  all_goals rfl

lemma PacketProtocol.protocol_checked {protocol : PacketProtocol} {result : Checked}
    (hresult : result ≠ .ok false)
    (h : protocol.checked metadata result = .ok (.ok (), sniffed)) :
    sniffed.protocol = protocol.name := by
  unfold checked at h
  grind

lemma unlessAny_ne {invalid : List Bool} : unlessAny invalid ≠ .ok false := by
  unfold unlessAny
  grind

lemma utpExtensions_ne (extension : ℕ) (reader : Bytes) :
    utpExtensions extension reader ≠ .ok false := by
  fun_induction utpExtensions extension reader <;> grind

lemma PacketProtocol.protocol_sniff {protocol : PacketProtocol}
    (hquery : protocol = .dns → dnsQuery packet library ≠ .ok false)
    (h : protocol.sniff library ciphers fuel packet metadata = .ok (.ok (), sniffed)) :
    sniffed.protocol = protocol.name := by
  cases protocol with
  | dns => exact protocol_checked (hquery rfl) h
  | quic => exact protocol_quicClientHello h
  | utp =>
    refine protocol_checked ?_ h
    unfold Sniff.utp
    split_ifs
    · simp
    · exact utpExtensions_ne _ _
  | stun | udpTracker | dtls | ntp => exact protocol_checked unlessAny_ne h

/-- A sniffer that rejects the packet leaves the protocol, or it is QUIC and has set its own. -/
lemma PacketProtocol.protocol_of_error {protocol : PacketProtocol} {err : SniffError}
    (h : protocol.sniff library ciphers fuel packet metadata = .ok (.error err, sniffed)) :
    sniffed.protocol = metadata.protocol ∨ sniffed.protocol = QUIC.protocolQUIC := by
  have hchecked : ∀ {protocol : PacketProtocol} {result : Checked},
      protocol.checked metadata result = .ok (.error err, sniffed) →
        sniffed.protocol = metadata.protocol := by
    intro protocol result hchecked
    unfold checked at hchecked
    grind
  cases protocol with
  | quic =>
    unfold PacketProtocol.sniff QUIC.quicClientHello QUIC.finish at h
    dsimp only at h
    repeat' split at h
    all_goals cases h
    all_goals first | exact .inl rfl | exact .inr rfl
  | dns | stun | utp | udpTracker | dtls | ntp => exact .inl (hchecked h)

/-! ### The sniffer that ends the search -/

variable (library ciphers fuel packet) in
/-- The first sniffer that returns no error. -/
def successful : List PacketProtocol → Metadata → Option PacketProtocol
  | [], _ => none
  | protocol :: protocols, metadata =>
    match protocol.sniff library ciphers fuel packet metadata with
    | .ok (.ok _, _) => some protocol
    | .ok (.error _, metadata) => successful protocols metadata
    | .error _ => none

variable (library ciphers fuel packet) in
/-- All of these sniffers reject the packet. -/
def Rejected : List PacketProtocol → Metadata → Prop
  | [], _ => True
  | protocol :: protocols, metadata => ∃ err after,
    protocol.sniff library ciphers fuel packet metadata = .ok (.error err, after) ∧
      Rejected protocols after

variable (library ciphers fuel packet) in
/-- The search comes to the sniffer of DNS. -/
def ReachesDNS (protocols : List PacketProtocol) (metadata : Metadata) : Prop :=
  ∃ before after, protocols = before ++ .dns :: after ∧
    Rejected library ciphers fuel packet before metadata

variable (library ciphers fuel packet) in
/-- If the search succeeds, the protocol has been set by the sniffer that ended it. -/
def SetBySuccessful (protocols : List PacketProtocol) (metadata : Metadata)
    (errors : List SniffError) : Prop :=
  ∀ sniffed, peekProtocols library ciphers fuel packet protocols metadata errors =
      .ok ([], sniffed) →
    ∃ protocol, successful library ciphers fuel packet protocols metadata = some protocol ∧
      sniffed.protocol = protocol.name

lemma reachesDNS_cons_of_error {protocol : PacketProtocol} {protocols : List PacketProtocol}
    {err : SniffError} (hquery : dnsQuery packet library = .ok false)
    (h : protocol.sniff library ciphers fuel packet metadata = .ok (.error err, sniffed)) :
    ReachesDNS library ciphers fuel packet (protocol :: protocols) metadata ↔
      ReachesDNS library ciphers fuel packet protocols sniffed := by
  constructor
  · rintro ⟨_ | ⟨first, before⟩, after, hsplit, hrejected⟩
    · obtain rfl := (cons.inj hsplit).1
      simp [PacketProtocol.sniff, PacketProtocol.checked, hquery] at h
    · obtain ⟨rfl, rfl⟩ := cons.inj hsplit
      obtain ⟨err', after', hsniff, hrejected⟩ := hrejected
      rw [h] at hsniff
      obtain ⟨-, rfl⟩ := Prod.mk.inj (Except.ok.inj hsniff)
      exact ⟨before, after, rfl, hrejected⟩
  · rintro ⟨before, after, rfl, hrejected⟩
    exact ⟨protocol :: before, after, rfl, err, sniffed, h, hrejected⟩

lemma reachesDNS_cons_of_not_error {protocol : PacketProtocol} {protocols : List PacketProtocol}
    (h : ∀ err after,
      protocol.sniff library ciphers fuel packet metadata ≠ .ok (.error err, after)) :
    ReachesDNS library ciphers fuel packet (protocol :: protocols) metadata ↔ protocol = .dns := by
  constructor
  · rintro ⟨_ | ⟨first, before⟩, after, hsplit, hrejected⟩
    · exact (cons.inj hsplit).1
    · obtain ⟨rfl, rfl⟩ := cons.inj hsplit
      obtain ⟨err, after', hsniff, -⟩ := hrejected
      exact absurd hsniff (h err after')
  · rintro rfl
    exact ⟨[], protocols, rfl, trivial⟩

/-- The search for the next sniffer, when others have rejected the packet. -/
lemma setBySuccessful_iff {protocols : List PacketProtocol} {errors : List SniffError}
    (hne : protocols ≠ [] ∨ errors ≠ []) (hfresh : metadata.protocol ≠ PacketProtocol.dns.name) :
    SetBySuccessful library ciphers fuel packet protocols metadata errors ↔
      ¬(dnsQuery packet library = .ok false ∧
        ReachesDNS library ciphers fuel packet protocols metadata) := by
  induction protocols generalizing metadata errors with
  | nil =>
    refine iff_of_true (fun sniffed h => ?_) fun ⟨_, before, after, hsplit, _⟩ => ?_
    · obtain ⟨rfl, rfl⟩ := Prod.mk.inj (Except.ok.inj h)
      simp at hne
    · simp at hsplit
  | cons protocol protocols ih =>
    cases hsniff : protocol.sniff library ciphers fuel packet metadata with
    | error stop =>
      have hnot : protocol ≠ .dns := by
        rintro rfl
        cases hsniff
      refine iff_of_true (fun sniffed h => ?_) fun ⟨_, hreaches⟩ => hnot ?_
      · simp [peekProtocols, hsniff, bind, Except.bind] at h
      · exact (reachesDNS_cons_of_not_error (by simp [hsniff])).1 hreaches
    | ok result =>
      obtain ⟨err | _, after⟩ := result
      · have hafter : after.protocol ≠ PacketProtocol.dns.name := by
          rcases PacketProtocol.protocol_of_error hsniff with h | h <;> rw [h]
          · exact hfresh
          · decide
        have hrest : SetBySuccessful library ciphers fuel packet (protocol :: protocols) metadata
            errors ↔ SetBySuccessful library ciphers fuel packet protocols after
              (errors ++ [err]) := by
          simp [SetBySuccessful, peekProtocols, successful, hsniff, bind, Except.bind]
        rw [hrest, ih (.inr (by simp)) hafter, not_iff_not, and_congr_right_iff]
        exact fun hquery => (reachesDNS_cons_of_error hquery hsniff).symm
      · have hset : SetBySuccessful library ciphers fuel packet (protocol :: protocols) metadata
            errors ↔ after.protocol = protocol.name := by
          simp [SetBySuccessful, peekProtocols, successful, hsniff, bind, Except.bind, pure,
            Except.pure]
        rw [hset, reachesDNS_cons_of_not_error (by simp [hsniff])]
        constructor
        · rintro hprotocol ⟨hquery, rfl⟩
          have hkept : after = metadata := by
            simpa [PacketProtocol.sniff, PacketProtocol.checked, hquery, eq_comm] using hsniff
          exact hfresh (hkept ▸ hprotocol)
        · intro hnot
          exact PacketProtocol.protocol_sniff (fun hdns hquery => hnot ⟨hquery, hdns⟩) hsniff

/-- Success means that the sniffer that ended the search has set its protocol, exactly if there is
a sniffer and the search does not come to the sniffer of DNS with a message that is not a query. -/
theorem protocol_peekProtocols (library : Library) (ciphers : Ciphers) (fuel : ℕ) (packet : Bytes)
    (protocols : List PacketProtocol) (metadata : Metadata)
    (hfresh : metadata.protocol ≠ PacketProtocol.dns.name) :
    SetBySuccessful library ciphers fuel packet protocols metadata [] ↔
      protocols ≠ [] ∧ ¬(dnsQuery packet library = .ok false ∧
        ReachesDNS library ciphers fuel packet protocols metadata) := by
  by_cases hne : protocols = []
  · subst hne
    refine iff_of_false (fun h => ?_) fun h => h.1 rfl
    obtain ⟨_, hnone, -⟩ := h metadata rfl
    cases hnone
  · rw [setBySuccessful_iff (.inl hne) hfresh, and_iff_right hne]

def decoding (message : Except String Unpacked) : Library := ⟨fun _ => message⟩

/-- A packet that reads as a DNS response is recognised by the sniffer of NTP before. -/
theorem protocol_peekProtocols_ntp :
    let packet : Bytes := 0x1b :: replicate 47 0
    dnsQuery packet (decoding (.ok ⟨true, 0, 0, 0⟩)) = .ok false ∧
      SetBySuccessful (decoding (.ok ⟨true, 0, 0, 0⟩)) plainCiphers 0 packet [.ntp, .dns] {} [] ∧
      peekProtocols (decoding (.ok ⟨true, 0, 0, 0⟩)) plainCiphers 0 packet [.ntp, .dns] {} [] =
        .ok ([], { protocol := "ntp" }) := by
  have hntp : PacketProtocol.ntp.sniff (decoding (.ok ⟨true, 0, 0, 0⟩)) plainCiphers 0
      (0x1b :: replicate 47 0) {} = .ok (.ok (), { protocol := "ntp" }) := by rfl
  have hset := protocol_peekProtocols (decoding (.ok ⟨true, 0, 0, 0⟩)) plainCiphers 0
    (0x1b :: replicate 47 0) [.ntp, .dns] {} (by decide)
  dsimp only
  refine ⟨rfl, hset.2 ⟨by simp, fun ⟨_, hreaches⟩ => ?_⟩, by rfl⟩
  rw [reachesDNS_cons_of_not_error fun err after h => by cases hntp.symm.trans h] at hreaches
  cases hreaches

/-- The header of a DNS response ends the search without a protocol. All others reject it. -/
theorem peekProtocols_response :
    peekProtocols (decoding (.ok ⟨true, 0, 0, 0⟩)) plainCiphers 0 (0 :: 1 :: 0x80 :: .replicate 9 0)
      [.quic, .stun, .utp, .udpTracker, .dtls, .ntp, .dns] {} [] = .ok ([], {}) := by
  rfl

end SingBox.Sniff
