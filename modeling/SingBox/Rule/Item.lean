import SingBox.Adapter.InboundContext

/-!
# Rule items

One constructor for each item of `route/rule/rule_item_*.go`, with what its `Match` reads besides
the metadata. `RuleItem.group` is the list it is put in.
-/

namespace SingBox

inductive ItemGroup where
  | other
  | sourceAddress
  | sourcePort
  | destinationAddress
  | destinationIPCIDR
  | destinationPort
deriving DecidableEq

inductive ResponseSection where
  | answer
  | ns
  | extra
deriving DecidableEq

def ResponseSection.select (response : Msg) : ResponseSection → List RR
  | .answer => response.answer
  | .ns => response.ns
  | .extra => response.extra

inductive RuleItem where
  | ipCIDR (isSource : Bool) (ipSet : Addr → Bool)
  | ipIsPrivate (isSource : Bool) (isPublicAddr : Option Addr → Bool)
  | ipAcceptAny
  -- The domain items decide the lower-cased host; lower-casing is part of the predicates.
  | domain (matcher : String → Bool)
  | domainKeyword (keywords : List (String → Bool))
  | domainRegex (matchers : List (String → Bool))
  | adGuardDomain (matcher : String → Bool)
  | port (isSource : Bool) (ports : List ℕ)
  | portRange (isSource : Bool) (portRangeList : List (ℕ × ℕ))
  | inbound (inbounds : List String)
  | ipVersion (isIPv6 : Bool)
  | queryType (types : List ℕ)
  | network (networks : List String)
  | authUser (users : List String)
  | protocol (protocols : List String)
  | client (clients : List String)
  | processName (base : String → String) (processes : List String)
  | processPath (isAndroid : Bool) (processes : List String)
  | processPathRegex (matchers : List (String → Bool))
  | packageName (packageNames : List String)
  | packageNameRegex (matchers : List (String → Bool))
  | user (users : List String)
  | userID (userIds : List Int)
  | outbound (matchAny : Bool) (outbounds : List String)
  | sourceMACAddress (addresses : List String)
  | sourceHostname (hostnames : List String)
  | preferredBy (preferredDomain : List (String → Bool)) (preferredAddress : List (Addr → Bool))
  | preferredByDNS (preferredDomain : List (String → Bool))
  -- Items that ask only the network manager or the Clash server, not the metadata: `clash_mode`,
  -- `network_type`, `network_is_expensive`, `network_is_constrained`, `wifi_ssid`, `wifi_bssid`
  -- and the three interface address items.
  | environment (answer : Bool)
  | responseRcode (rcode : ℕ)
  | responseRecord (selector : ResponseSection) (records : List (RR → Bool))

namespace RuleItem

def group : RuleItem → ItemGroup
  | ipCIDR isSource _ => if isSource then .sourceAddress else .destinationIPCIDR
  | ipIsPrivate isSource _ => if isSource then .sourceAddress else .destinationIPCIDR
  | ipAcceptAny => .destinationIPCIDR
  | domain _ | domainKeyword _ | domainRegex _ | adGuardDomain _ => .destinationAddress
  | port isSource _ => if isSource then .sourcePort else .destinationPort
  | portRange isSource _ => if isSource then .sourcePort else .destinationPort
  | _ => .other

def matchDomainHost (matchers : List (String → Bool)) (metadata : InboundContext) : Bool :=
  if metadata.domainHost = "" then false
  else matchers.any fun matcher => matcher metadata.domainHost

variable (isSource : Bool)

def matchIPCIDR (ipSet : Addr → Bool) (metadata : InboundContext) : Bool :=
  if isSource || metadata.ipCIDRMatchSource then metadata.source.addr.any ipSet
  else if metadata.destinationAddressMatchFromResponse then
    let addresses := metadata.dnsResponseAddressesForMatch
    if addresses.isEmpty then metadata.ipCIDRAcceptEmpty else addresses.any ipSet
  else if metadata.destination.isIP then metadata.destination.addr.any ipSet
  else if !metadata.destinationAddresses.isEmpty then metadata.destinationAddresses.any ipSet
  else metadata.ipCIDRAcceptEmpty

def matchIPIsPrivate (isPublicAddr : Option Addr → Bool) (metadata : InboundContext) : Bool :=
  if isSource then !isPublicAddr metadata.source.addr
  else if metadata.destinationAddressMatchFromResponse then
    metadata.dnsResponseAddressesForMatch.any fun address => !isPublicAddr (some address)
  else if metadata.destination.addr.isSome then !isPublicAddr metadata.destination.addr
  else metadata.destinationAddresses.any fun address => !isPublicAddr (some address)

def matchProcessInfo (test : ConnectionOwner → Bool) (metadata : InboundContext) : Bool :=
  metadata.processInfo.any test

variable (item : RuleItem) (metadata : InboundContext)

def «match» : Bool :=
  match item with
  | ipCIDR isSource ipSet => matchIPCIDR isSource ipSet metadata
  | ipIsPrivate isSource isPublicAddr => matchIPIsPrivate isSource isPublicAddr metadata
  | ipAcceptAny =>
    if metadata.destinationAddressMatchFromResponse then
      !metadata.dnsResponseAddressesForMatch.isEmpty
    else !metadata.destinationAddresses.isEmpty
  | domain matcher => matchDomainHost [matcher] metadata
  | domainKeyword keywords => matchDomainHost keywords metadata
  | domainRegex matchers => matchDomainHost matchers metadata
  | adGuardDomain matcher => matchDomainHost [matcher] metadata
  | port isSource ports =>
    if isSource then ports.contains metadata.source.port
    else ports.contains metadata.destination.port
  | portRange isSource portRangeList =>
    let port := if isSource then metadata.source.port else metadata.destination.port
    portRangeList.any fun portRange => portRange.1 ≤ port && port ≤ portRange.2
  | inbound inbounds => inbounds.contains metadata.inbound
  | ipVersion isIPv6 =>
    metadata.ipVersion != 0 && (metadata.ipVersion == 6) == isIPv6 ||
      metadata.destination.isIP && metadata.destination.isIPv6 == isIPv6
  | queryType types => if metadata.queryType = 0 then false else types.contains metadata.queryType
  | network networks => networks.contains metadata.network
  | authUser users => users.contains metadata.user
  | protocol protocols => protocols.contains metadata.protocol
  | client clients => clients.contains metadata.client
  | processName base processes =>
    matchProcessInfo (fun info => info.processPath != "" &&
      processes.contains (base info.processPath)) metadata
  | processPath isAndroid processes =>
    matchProcessInfo (fun info =>
      info.processPath != "" && processes.contains info.processPath ||
        isAndroid && info.androidPackageNames.any processes.contains) metadata
  | processPathRegex matchers =>
    matchProcessInfo (fun info => info.processPath != "" &&
      matchers.any fun matcher => matcher info.processPath) metadata
  | packageName packageNames =>
    matchProcessInfo (fun info => info.androidPackageNames.any packageNames.contains) metadata
  | packageNameRegex matchers =>
    matchProcessInfo (fun info => matchers.any info.androidPackageNames.any) metadata
  | user users =>
    matchProcessInfo (fun info => info.userName != "" && users.contains info.userName) metadata
  | userID userIds =>
    matchProcessInfo (fun info => info.userId != -1 && userIds.contains info.userId) metadata
  | outbound matchAny outbounds =>
    if matchAny then metadata.outbound != "" else outbounds.contains metadata.outbound
  | sourceMACAddress addresses => metadata.sourceMACAddress.any addresses.contains
  | sourceHostname hostnames =>
    if metadata.sourceHostname = "" then false else hostnames.contains metadata.sourceHostname
  | preferredBy preferredDomain preferredAddress =>
    matchDomainHost preferredDomain metadata ||
      metadata.destination.addr.any (fun address => preferredAddress.any (· address)) ||
        metadata.destinationAddresses.any fun address => preferredAddress.any (· address)
  | preferredByDNS preferredDomain => matchDomainHost preferredDomain metadata
  | environment answer => answer
  | responseRcode rcode => metadata.dnsResponse.any fun response => response.hdr.rcode == rcode
  | responseRecord selector records =>
    metadata.dnsResponse.any fun response =>
      records.any fun expected => (selector.select response).any expected

/-! No condition looks at the bookkeeping of the current rule: of the rule cache only the two
rule-set options matter. -/

@[simp] lemma match_setDidMatch : item.match metadata.setDidMatch = item.match metadata := by
  cases item <;> rfl

@[simp] lemma match_ignore (b : Bool) :
    item.match { metadata with ignoreDestinationIPCIDRMatch := b } = item.match metadata := by
  cases item <;> rfl

@[simp] lemma match_resetRuleMatchCache :
    item.match metadata.resetRuleMatchCache = item.match metadata := by
  cases item <;> rfl

end RuleItem

end SingBox
