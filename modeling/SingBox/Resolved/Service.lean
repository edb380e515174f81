import SingBox.Dns.Resolving
import SingBox.Lib.OrderedMap
import SingBox.Lib.Run

/-!
# The systemd-resolved service

Programs tell the service the DNS servers and domains of the links. The transport has a table of its
own, under the pointer to the link. Calls hold the lock, so they are atomic.
-/

namespace SingBox.Resolved
open Resolving (NoReturn)

structure LinkDNS where
  family : ℤ
  address : List UInt8

structure LinkDNSEx where
  family : ℤ
  address : List UInt8
  port : ℕ
  name : String

structure LinkDomain where
  domain : String
  routingOnly : Bool

structure Interface where
  pointer : ℕ
  name : String
deriving DecidableEq

structure TransportLink where
  iif : Option Interface := none
  address : List LinkDNS := []
  addressEx : List LinkDNSEx := []
  domain : List LinkDomain := []
  defaultRoute : Bool := false
  dnsOverTLS : Bool := false
  /-- Something of the link was set. The program does not keep this. -/
  configured : Bool := false

structure Server where
  id : ℕ
  address : Addr
  port : ℕ
  dnsOverTLS : Bool
  serverName : String
deriving DecidableEq

variable (link : TransportLink)

def TransportLink.valid : Bool :=
  (link.address.all fun address => (Addr.addrFromIP address.address).isSome) &&
    link.addressEx.all fun address => (Addr.addrFromIP address.address).isSome

def TransportLink.servers (id : ℕ) : List Server :=
  let plain := link.address.filterMap fun address =>
    (Addr.addrFromIP address.address).map fun addr => (addr, 53, "")
  let extended := link.addressEx.filterMap fun address =>
    (Addr.addrFromIP address.address).map fun addr => (addr, address.port, address.name)
  (plain ++ extended).zipIdx.map fun server =>
    { id := id + server.2
      address := server.1.1
      port := server.1.2.1
      dnsOverTLS := link.dnsOverTLS
      serverName := if link.dnsOverTLS then server.1.2.2 else "" }

structure State where
  objects : ℕ → TransportLink := fun _ => {}
  made : ℕ := 0
  links : OrderedMap ℤ ℕ := {}
  defaultRouteSequence : List ℤ := []
  linkServers : OrderedMap ℕ (List Server) := {}
  servers : ℕ := 0
  closed : List ℕ := []
  /-- A call has returned without releasing the lock. -/
  locked : Bool := false
  crashed : Bool := false

namespace State
variable (s : State)
variable (acceptDefaultResolvers : Bool) (id : ℕ) (order : List (ℤ × ℕ)) (name : List Char)
  (link : TransportLink)

def setObject : State := { s with objects := Function.update s.objects id link }

variable (ifIndex : ℤ) (iif : Option Interface)

/-- A new link is in the table before its interface is looked up. -/
def getLink : State × Option ℕ :=
  match s.links.get? ifIndex with
  | some id => (s, some id)
  | none =>
    let s' := { s.setObject s.made {} with made := s.made + 1, links := s.links.put ifIndex s.made }
    match iif with
    | none => (s', none)
    | some iif => (s'.setObject s.made { iif := some iif }, some s.made)

def closeServers : State :=
  { s with closed := s.closed ++ ((s.linkServers.get? id).getD []).map Server.id }

def updateTransports : State :=
  let s := s.closeServers id
  let link := s.objects id
  if link.valid then
    { s with
      linkServers := s.linkServers.put id (link.servers s.servers)
      servers := s.servers + (link.servers s.servers).length }
  else s

def deleteTransport : State := { s.closeServers id with linkServers := s.linkServers.erase id }

/-- The name is logged, and the transport takes over the changes. -/
def postUpdate : State :=
  match (s.objects id).iif with
  | none => { s with crashed := true }
  | some _ => s.updateTransports id

def setLink (change : TransportLink → TransportLink) : State :=
  match s.getLink ifIndex iif with
  | (s, none) => s
  | (s, some id) =>
    (s.setObject id { change (s.objects id) with configured := true }).postUpdate id

def setLinkDNS (addresses : List LinkDNS) : State :=
  s.setLink ifIndex iif fun link => { link with address := addresses }

def setLinkDNSEx (addresses : List LinkDNSEx) : State :=
  s.setLink ifIndex iif fun link => { link with addressEx := addresses }

def setLinkDomains (domains : List LinkDomain) : State :=
  s.setLink ifIndex iif fun link => { link with domain := domains }

def setLinkDNSOverTLS (dotMode : String) : State := s.setLink ifIndex iif fun link =>
    if dotMode = "yes" then { link with dnsOverTLS := true }
    else if dotMode = "" ∨ dotMode = "opportunistic" ∨ dotMode = "no" then
      { link with dnsOverTLS := false }
    else link

/-- A default route is moved to the end of the sequence. -/
def setLinkDefaultRoute (defaultRoute : Bool) : State :=
  match s.getLink ifIndex iif with
  | (s, none) => s
  | (s, some id) =>
    let others := s.defaultRouteSequence.filter (· ≠ ifIndex)
    let s := s.setObject id { s.objects id with defaultRoute, configured := true }
    { s with defaultRouteSequence := if defaultRoute then others ++ [ifIndex] else others
      }.postUpdate id

/-- Removed from the table, and then its servers are made anew. -/
def revertLink : State :=
  match s.getLink ifIndex iif with
  | (s, none) => s
  | (s, some id) => { s with links := s.links.erase ifIndex }.postUpdate id

/-- The lock remains held if there is no interface. -/
def resolve : State :=
  match s.getLink ifIndex iif with
  | (s, none) => { s with locked := true }
  | (s, some id) =>
    match (s.objects id).iif with
    | none => { s with crashed := true }
    | some _ => s

variable (byIndex : ℤ → Option Interface)

def disappeared (link : ℤ × ℕ) : Bool := byIndex link.1 = none ||
    (byIndex link.1).map Interface.pointer ≠ (s.objects link.2).iif.map Interface.pointer

def onNetworkUpdate : State :=
  let deleteIfIndex := (s.links.entries.filter (s.disappeared byIndex)).map Prod.fst
  let s := s.links.entries.foldl (fun s link =>
    { s with defaultRouteSequence := s.defaultRouteSequence.filter (· ≠ link.1)
      }.deleteTransport link.2) s
  { s with links := deleteIfIndex.foldl OrderedMap.erase s.links }

def matchesName : Bool := link.domain.any fun domain =>
    !(domain.domain = "." && domain.routingOnly && !acceptDefaultResolvers) &&
      domain.domain.toList <:+ name

def selectByDomain : Option ℕ := order.foldl (fun selected link =>
    if matchesName acceptDefaultResolvers name (s.objects link.2) then some link.2 else selected)
    none

def selectByRoute : List ℤ → Option ℕ → Except NoReturn (Option ℕ)
  | [], selected => .ok selected
  | ifIndex :: rest, _ =>
    match s.links.get? ifIndex with
    | none => .error .nilPointer
    | some id =>
      if (s.objects id).address ≠ [] ∨ (s.objects id).addressEx ≠ [] then .ok (some id)
      else selectByRoute rest (some id)

def selectLink : Except NoReturn (Option ℕ) :=
  match s.selectByDomain acceptDefaultResolvers order name with
  | some id => .ok (some id)
  | none =>
    if acceptDefaultResolvers then s.selectByRoute s.defaultRouteSequence.reverse none
    else .ok none

end State

end SingBox.Resolved
