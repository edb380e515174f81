import SingBox.Transport.Upgrade

/-!
# Streams of a trojan-go multiplex connection

A stream begins with a command and a destination, which are read through a buffered reader. The
bytes that were read ahead are put in front of the stream as after an HTTP upgrade, and are lost in
the same way.
-/

namespace SingBox.TrojanMux
open Upgrade

def commandTCP : UInt8 := 1

def commandUDP : UInt8 := 3

inductive Handled (δ : Type)
  | newConnectionEx (conn : Upgrade.CachedConn) (destination : δ)
  | newPacketConnectionEx (conn : Upgrade.CachedConn) (destination : δ)

variable {δ : Type}

def Handled.conn : Handled δ → Upgrade.CachedConn
  | .newConnectionEx conn _ | .newPacketConnectionEx conn _ => conn

def Handled.destination : Handled δ → δ
  | .newConnectionEx _ destination | .newPacketConnectionEx _ destination => destination

/-- The serializer of addresses is a parameter; it returns how many bytes it has read. -/
def newMuxConnection0 (readAddrPort : List UInt8 → Except String (δ × ℕ))
    (reads : List (List UInt8)) : Except String (Handled δ) :=
  match reads.flatten with
  | [] => .error "read command: EOF"
  | command :: rest =>
    match readAddrPort rest with
    | .error err => .error ("read destination: " ++ err)
    | .ok (destination, n) => do
      let conn ← dialContext (readResponse (command :: rest.take n) reads)
      if command = commandTCP then return .newConnectionEx conn destination
      else if command = commandUDP then return .newPacketConnectionEx conn destination
      else .error s!"unknown command {command}"

/-- The handler loses nothing exactly if nothing came with the header. -/
theorem newMuxConnection0_stream_iff {readAddrPort : List UInt8 → Except String (δ × ℕ)}
    {command : UInt8} {address stream : List UInt8} {destination : δ} {reads : List (List UInt8)}
    (haddress : readAddrPort (address ++ stream) = .ok (destination, address.length))
    (hcommand : command = commandTCP ∨ command = commandUDP)
    (h : reads.flatten = command :: address ++ stream) :
    ∃ handled, newMuxConnection0 readAddrPort reads = .ok handled ∧
      handled.destination = destination ∧
      (handled.conn.stream = stream ↔
        (readResponse (command :: address) reads).buffered = []) := by
  have hstream := readResponse_stream h
  have hiff : (Upgrade.CachedConn.mk [] (readResponse (command :: address) reads).conn).stream =
      stream ↔ (readResponse (command :: address) reads).buffered = [] := by
    rw [← stream_eq_iff hstream]
    rfl
  rw [List.cons_append] at h
  simp only [newMuxConnection0, h, haddress, List.take_left, dialContext_eq]
  rcases hcommand with rfl | rfl
  · exact ⟨.newConnectionEx _ destination, rfl, rfl, hiff⟩
  · exact ⟨.newPacketConnectionEx _ destination, rfl, rfl, hiff⟩

/-- What the serializer reads of an IPv4 destination: the family 1, the address and the port. -/
def readIPv4AddrPort : List UInt8 → Except String ((List UInt8 × ℕ) × ℕ)
  | 1 :: a :: b :: c :: d :: high :: low :: _ =>
    .ok (([a, b, c, d], high.toNat * 256 + low.toNat), 7)
  | 1 :: _ | [] => .error "EOF"
  | _ => .error "unknown address family"

theorem newMuxConnection0_stream_iff_apart :
    ∃ handled, newMuxConnection0 readIPv4AddrPort [[1, 1, 1, 2, 3], [4, 0, 80], [3, 4]] =
        .ok handled ∧ handled.destination = ([1, 2, 3, 4], 80) ∧ handled.conn.stream = [3, 4] := by
  have h : ([[1, 1, 1, 2, 3], [4, 0, 80], [3, 4]] : List (List UInt8)).flatten =
      1 :: [1, 1, 2, 3, 4, 0, 80] ++ [3, 4] := rfl
  have haddress : readIPv4AddrPort ([1, 1, 2, 3, 4, 0, 80] ++ [3, 4]) =
      .ok (([1, 2, 3, 4], 80), [1, 1, 2, 3, 4, 0, 80].length) := rfl
  obtain ⟨handled, hok, hdestination, hiff⟩ :=
    newMuxConnection0_stream_iff haddress (.inl rfl) h
  exact ⟨handled, hok, hdestination, hiff.2 rfl⟩

/-- The first byte of the stream arrives with the header and is lost. -/
theorem not_newMuxConnection0_stream_together :
    let reads : List (List UInt8) := [[1, 1, 1, 2, 3, 4, 0, 80, 3], [4]]
    reads.flatten = 1 :: [1, 1, 2, 3, 4, 0, 80] ++ [3, 4] ∧
      (newMuxConnection0 readIPv4AddrPort reads).map Handled.destination = .ok ([1, 2, 3, 4], 80) ∧
      (newMuxConnection0 readIPv4AddrPort reads).map (·.conn.stream) = .ok [4] :=
  ⟨rfl, rfl, rfl⟩

end SingBox.TrojanMux
