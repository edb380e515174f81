import SingBox.Adapter.Message

/-!
# The metadata of a connection or query

`InboundContext` is what every rule is matched against. The last fields are the rule cache.
-/

namespace SingBox

structure Socksaddr where
  addr : Option Addr := none
  port : ℕ := 0
  fqdn : String := ""
deriving DecidableEq

namespace Socksaddr
variable (a : Socksaddr)

def isIP : Bool := a.addr.isSome

def isIPv4 : Bool := a.addr.any Addr.is4

def isIPv6 : Bool := a.addr.any Addr.is6

end Socksaddr

structure ConnectionOwner where
  userId : Int := 0
  userName : String := ""
  processPath : String := ""
  androidPackageNames : List String := []
deriving DecidableEq

inductive SniffError where
  | needMoreData
  | setReadDeadline
  | readPayload
  | sniffer (message : String)
deriving DecidableEq

structure InboundContext where
  inbound : String := ""
  inboundType : String := ""
  ipVersion : ℕ := 0
  network : String := ""
  source : Socksaddr := {}
  destination : Socksaddr := {}
  user : String := ""
  outbound : String := ""
  protocol : String := ""
  domain : String := ""
  client : String := ""
  sniffContext : List UInt8 := []
  snifferNames : List String := []
  /-- The errors of the last sniff action, none if it succeeded. -/
  sniffError : List SniffError := []
  destinationAddresses : List Addr := []
  dnsResponse : Option Msg := none
  /-- Destination address items look at `dnsResponse` instead. -/
  destinationAddressMatchFromResponse : Bool := false
  processInfo : Option ConnectionOwner := none
  sourceMACAddress : Option String := none
  sourceHostname : String := ""
  queryType : ℕ := 0
  /-- `ip_cidr` items match the source address. -/
  ipCIDRMatchSource : Bool := false
  /-- `ip_cidr` items accept an empty response. -/
  ipCIDRAcceptEmpty : Bool := false
  sourceAddressMatch : Bool := false
  sourcePortMatch : Bool := false
  destinationAddressMatch : Bool := false
  destinationPortMatch : Bool := false
  didMatch : Bool := false
  /-- Destination IP conditions are left out: addresses are not known yet. -/
  ignoreDestinationIPCIDRMatch : Bool := false
deriving DecidableEq

namespace InboundContext
variable (c : InboundContext)

def setDidMatch : InboundContext := { c with didMatch := true }

def resetRuleMatchCache : InboundContext := { c with
    sourceAddressMatch := false
    sourcePortMatch := false
    destinationAddressMatch := false
    destinationPortMatch := false
    didMatch := false }

def resetRuleCache : InboundContext := { c with
    ipCIDRMatchSource := false
    ipCIDRAcceptEmpty := false }.resetRuleMatchCache

def dnsResponseAddressesForMatch : List Addr := dnsResponseAddresses c.dnsResponse

def domainHost : String := if c.domain ≠ "" then c.domain else c.destination.fqdn

end InboundContext

end SingBox
