import SingBox.Adapter.InboundContext
import SingBox.Resolved.Service

/-!
# The transports of the system

The client dereferences the response if there is no error, so each transport must return one of the
two.
-/

namespace SingBox.SystemTransports
open Attempts Resolving
variable {ε : Type}

structure Query where
  message : Msg
  question : Question
  first : message.question.head? = some question

def Query.isAddress (query : Query) : Bool :=
  query.question.qtype = dnsTypeA || query.question.qtype = dnsTypeAAAA

def Query.name (query : Query) : List Char := query.question.name.toList

structure Answer (ε : Type) extends Returned ε where
  definite : err = none → response.isSome

/-! ### DHCP -/

variable (E : Exceptions ε)

structure DHCPTransport (ε : Type) where
  fetched : List Socksaddr × Option ε
  search : List (List Char)
  ndots : ℤ
  attempts : ℤ
  wire : ℕ → Try Socksaddr → Wire ε

namespace DHCPTransport
variable (t : DHCPTransport ε)

def nameList (name : List Char) : List (List Char) := Resolving.nameList t.ndots t.search name

def names (query : Query) : List (List Char) := t.nameList (fqdnToDomain query.question.name).toList

def single (query : Query) (servers : List Socksaddr) : Bool :=
  servers.length = 1 || !query.isAddress

def exchange0 (query : Query) (servers : List Socksaddr) (schedules : ∀ n, Schedule n ε) :
    Except NoReturn (Returned ε) :=
  Resolving.exchange E (single query servers) (t.names query)
    (fun i => tryOneName E (fun server => exchangeOne E false (t.wire i server)) t.attempts servers
      ((t.names query).get i)) (schedules _)

def exchange (query : Query) (schedules : ∀ n, Schedule n ε) : Except NoReturn (Returned ε) :=
  match t.fetched.2 with
  | some err => .ok ⟨none, some err⟩
  | none =>
    if t.fetched.1 = [] then
      .ok ⟨none, some (E.new "dhcp: empty DNS servers from response")⟩
    else t.exchange0 E query t.fetched.1 schedules

end DHCPTransport

/-! ### Multicast -/

def canonicalName (name : String) : List Char := (fqdn name).toList.map Char.toLower

def mdnsLocalZones : List String :=
  ["local.", "254.169.in-addr.arpa.", "8.e.f.ip6.arpa.", "9.e.f.ip6.arpa.", "a.e.f.ip6.arpa.",
    "b.e.f.ip6.arpa."]

def isLocalDomain (name : String) : Bool := mdnsLocalZones.any fun zone =>
    canonicalName name = zone.toList || ('.' :: zone.toList) <:+ canonicalName name

structure MDNS (ε : Type) where
  queryTargets : Option ε
  pack : Option ε
  /-- What `exchangeTarget` returns for the links, in the order they end. -/
  targets : List (Returned ε)
  group : Option ε
  ctx : Option ε
  text : RR → String

namespace MDNS
variable (t : MDNS ε)

def appendRecords (destination source : List RR) (seen : List String) : List RR × List String :=
  source.foldl (fun (records, seen) record =>
    if t.text record ∈ seen then (records, seen)
    else (records ++ [record], seen ++ [t.text record])) (destination, seen)

def mergeResponse (destination source : Msg) (seen : List String) : Msg × List String :=
  let answer := t.appendRecords destination.answer source.answer seen
  let ns := t.appendRecords destination.ns source.ns answer.2
  let extra := t.appendRecords destination.extra source.extra ns.2
  ({ destination with answer := answer.1, ns := ns.1, extra := extra.1 }, extra.2)

def newResponse (query : Query) : Msg where
  hdr := { id := query.message.hdr.id, response := true, authoritative := true }
  question := [{ query.question with qclass := query.question.qclass % 2 ^ 15 }]
  answer := []
  ns := []
  extra := []

def gather (query : Query) : Msg × Option ε :=
  let result := t.targets.foldl (fun (response, seen, lastErr) target =>
    match target.err, target.response with
    | some err, _ => (response, seen, some err)
    | none, some source =>
      let merged := t.mergeResponse response source seen
      (merged.1, merged.2, lastErr)
    | none, none => (response, seen, lastErr)) (newResponse query, [], none)
  (result.1, result.2.2)

def exchange (query : Query) : Except NoReturn (Returned ε) :=
  match t.queryTargets with
  | some err => E.fail (some err) "mdns: prepare interfaces".toList
  | none =>
    match t.pack with
    | some err => E.fail (some err) "mdns: pack request".toList
    | none =>
      let (response, lastErr) := t.gather query
      if response.answer ≠ [] ∨ response.ns ≠ [] ∨ response.extra ≠ [] then
        .ok ⟨some response, none⟩
      else
        match lastErr, t.group, t.ctx with
        | some err, _, _ => .ok ⟨none, some err⟩
        | none, some err, some _ => .ok ⟨none, some err⟩
        | none, _, _ => .ok ⟨none, some (E.new "mdns: query timeout")⟩

end MDNS

/-! ### The system resolver -/

structure ResolvedServer (ε : Type) where
  primaryTransport : Answer ε
  fallbackTransport : Option (Answer ε)

def ResolvedServer.exchange (server : ResolvedServer ε) : Answer ε :=
  match server.primaryTransport.err, server.fallbackTransport with
  | some _, some fallback => fallback
  | _, _ => server.primaryTransport

structure DBusResolvedResolver (ε : Type) where
  savedServerSet : Option (List (ResolvedServer ε))
  /-- What `checkResolved` returns if there is no set. -/
  checkResolved : Except ε (List (ResolvedServer ε))
  /-- The set after an error, if it is another one. -/
  refreshedServerSet : Option (List (ResolvedServer ε))

namespace DBusResolvedResolver
variable (t : DBusResolvedResolver ε)

def exchangeServerSet (servers : List (ResolvedServer ε)) : Returned ε :=
  if servers = [] then ⟨none, some (E.new "link has no DNS servers configured")⟩
  else
    match tryEach (fun server => (.ok server.exchange.check : Except Empty _)) servers none with
    | .ok (.ok response) => ⟨response, none⟩
    | .ok (.error lastError) => ⟨none, lastError⟩

def exchange : Returned ε :=
  match t.savedServerSet.elim t.checkResolved .ok with
  | .error err => ⟨none, some err⟩
  | .ok serverSet =>
    match (exchangeServerSet E serverSet).err with
    | none => ⟨(exchangeServerSet E serverSet).response, none⟩
    | some err =>
      match t.refreshedServerSet with
      | none => ⟨none, some err⟩
      | some refreshed => exchangeServerSet E refreshed

end DBusResolvedResolver

inductive SystemLookup (ε : Type) where
  | cancelled (err : ε)
  | failed (err : ε)
  | found (response : Msg)
  | unavailable (err : ε)

def systemExchange (query : Query) : SystemLookup ε → Returned ε
  | .cancelled err => ⟨none, some err⟩
  | .failed err =>
    match E.rcode err with
    | some rcode => ⟨some (fixedResponseStatus query.message rcode), none⟩
    | none => ⟨none, some err⟩
  | .found response =>
    let hdr := { response.hdr with id := query.message.hdr.id, response := true }
    ⟨some { response with hdr }, none⟩
  | .unavailable err => ⟨none, some err⟩

/-! ### The local transport -/

structure DNSConfig where
  servers : List String
  search : List (List Char)
  ndots : ℤ
  attempts : ℤ
  rotate : Bool
  singleRequest : Bool
  useTCP : Bool

def DNSConfig.nameList (config : DNSConfig) (name : List Char) : List (List Char) :=
  Resolving.nameList config.ndots config.search name

structure LocalTransport (ε : Type) where
  hosts : Option (String → List Addr)
  neighborResolver : Option (List Char → List Addr)
  neighborSuffixes : List (List Char)
  isDarwin : Bool
  mdnsTransport : MDNS ε
  resolved : Option (DBusResolvedResolver ε)
  dhcpTransport : Option (DHCPTransport ε)
  fallback : Bool
  system : SystemLookup ε
  /-- Nil on Windows if it cannot be read. -/
  systemConfig : Option DNSConfig
  soffset : ℕ → UInt32
  wire : ℕ → Try String → Wire ε

namespace LocalTransport
variable (t : LocalTransport ε)

def defaultDNSTTL : ℕ := 600

def extractNeighborHost (canonical : List Char) : List (List Char) → List Char
  | [] => []
  | suffix :: suffixes =>
    if suffix <:+ canonical ∧ suffix.length < canonical.length ∧
        '.' ∉ canonical.take (canonical.length - suffix.length) then
      canonical.take (canonical.length - suffix.length)
    else extractNeighborHost canonical suffixes

def lookupNeighbor (query : Query) : Option Msg :=
  match t.neighborResolver with
  | none => none
  | some lookupAddresses =>
    let host := extractNeighborHost (canonicalName query.question.name) t.neighborSuffixes
    if !query.isAddress then none
    else if host = [] then none
    else if lookupAddresses host = [] then none
    else
      some (fixedResponse query.message.hdr.id query.question (lookupAddresses host) defaultDNSTTL)

def lookupHosts (query : Query) : Option Msg :=
  match t.hosts with
  | none => none
  | some lookup =>
    let addresses := lookup (fqdnToDomain query.question.name)
    if query.isAddress ∧ addresses ≠ [] then
      some (fixedResponse query.message.hdr.id query.question addresses defaultDNSTTL)
    else none

inductive Source (ε : Type) where
  | fixed (response : Msg)
  | system
  | mdns
  | resolved (resolver : DBusResolvedResolver ε)
  | dhcp (transport : DHCPTransport ε)
  | servers

def source (query : Query) : Source ε :=
  match t.lookupHosts query with
  | some response => .fixed response
  | none =>
    match t.lookupNeighbor query with
    | some response => .fixed response
    | none =>
      if isLocalDomain query.question.name then if t.isDarwin then .system else .mdns
      else
        match t.resolved, t.dhcpTransport with
        | some resolver, _ => .resolved resolver
        | none, some transport =>
          if transport.fetched.1 ≠ [] then .dhcp transport
          else if t.fallback then .system
          else .servers
        | none, none => if t.fallback then .system else .servers

def single (config : DNSConfig) (query : Query) : Bool := config.singleRequest || !query.isAddress

def exchangeServers (query : Query) (schedules : ∀ n, Schedule n ε) :
    Except NoReturn (Returned ε) :=
  match t.systemConfig with
  | none => .error .nilPointer
  | some config =>
    Resolving.exchange E (single config query) (config.nameList query.name)
      (fun i => tryOneName E (fun server => exchangeOne E config.useTCP (t.wire i server))
        config.attempts (rotated (serverOffset config.rotate (t.soffset i)) config.servers)
        ((config.nameList query.name).get i)) (schedules _)

def exchange (query : Query) (schedules : ∀ n, Schedule n ε) : Except NoReturn (Returned ε) :=
  match t.source query with
  | .fixed response => .ok ⟨some response, none⟩
  | .system => .ok (systemExchange E query t.system)
  | .mdns => t.mdnsTransport.exchange E query
  | .resolved resolver => .ok (resolver.exchange E)
  | .dhcp transport => transport.exchange0 E query transport.fetched.1 schedules
  | .servers => t.exchangeServers E query schedules

end LocalTransport

/-! ### The service of systemd -/

open LocalTransport

structure ResolvedTransport (ε : Type) where
  service : Resolved.State
  order : List (ℤ × ℕ)
  perm : order.Perm service.links.entries
  acceptDefaultResolvers : Bool
  ndots : ℤ
  attempts : ℤ
  rotate : Bool
  serverOffset : ℕ → UInt32
  answers : ℕ → Try Resolved.Server → Answer ε

namespace ResolvedTransport
variable (t : ResolvedTransport ε)

def nameList (ndots : ℤ) (link : Resolved.TransportLink) (name : List Char) : List (List Char) :=
  Resolving.nameList ndots
    ((link.domain.filter fun domain => !domain.routingOnly).map fun domain => domain.domain.toList)
    name

def names (link : ℕ) (query : Query) : List (List Char) :=
  nameList t.ndots (t.service.objects link) query.name

def exchangeServers (link : ℕ) (servers : List Resolved.Server) (query : Query)
    (schedules : ∀ n, Schedule n ε) : Except NoReturn (Returned ε) :=
  Resolving.exchange E (!query.isAddress) (t.names link query)
    (fun i => tryOneName E (fun server => .ok (t.answers i server).toReturned) t.attempts
      (rotated (Resolving.serverOffset t.rotate (t.serverOffset i)) servers)
      ((t.names link query).get i)) (schedules _)

def exchange (query : Query) (schedules : ∀ n, Schedule n ε) : Except NoReturn (Returned ε) :=
  match t.service.selectLink t.acceptDefaultResolvers t.order query.name with
  | .error stop => .error stop
  | .ok none => .ok ⟨some (fixedResponseStatus query.message rcodeNameError), none⟩
  | .ok (some link) =>
    match t.service.linkServers.get? link with
    | none => .error .nilPointer
    | some servers =>
      if servers = [] then .ok ⟨some (fixedResponseStatus query.message rcodeNameError), none⟩
      else t.exchangeServers E link servers query schedules

end ResolvedTransport

section ExactlyOne
variable {E}

lemma MDNS.exactlyOne_exchange (t : MDNS ε) (query : Query) : ExactlyOne (t.exchange E query) := by
  fun_cases MDNS.exchange E t query
  all_goals first
    | exact exactlyOne_fail _ _
    | exact exactlyOne_response _
    | exact exactlyOne_err _

lemma DBusResolvedResolver.exactlyOne_exchangeServerSet (servers : List (ResolvedServer ε)) :
    ExactlyOne (.ok (exchangeServerSet E servers)) := by
  rw [exchangeServerSet]
  split_ifs with hsrvs
  · exact exactlyOne_err _
  · have hask : ∀ server ∈ servers, Sound (fun response => response.isSome)
        (.ok server.exchange.check : Except Empty _) := by
      intro server _
      have hsound := Definite.sound ⟨_, rfl, server.exchange.definite⟩
      obtain ⟨result, hres, hans⟩ := hsound
      cases hres
      exact ⟨_, rfl, hans⟩
    have hset : Settled _ (tryEach _ servers none) := settled_tryEach hask (.inl hsrvs)
    split
    · next response h =>
      rw [h] at hset
      obtain ⟨message, rfl⟩ := Option.isSome_iff_exists.1 hset
      exact exactlyOne_response message
    · next lastError h =>
      rw [h] at hset
      obtain ⟨err, rfl⟩ := Option.isSome_iff_exists.1 hset
      exact exactlyOne_err err

lemma DBusResolvedResolver.exactlyOne_exchange (t : DBusResolvedResolver ε) :
    ExactlyOne (.ok (t.exchange E)) := by
  fun_cases DBusResolvedResolver.exchange E t
  · exact exactlyOne_err _
  · next servers _ herr =>
    have hone := exactlyOne_exchangeServerSet (E := E) servers
    rw [exactlyOne_ok_iff, herr] at hone
    exact exactlyOne_ok_iff.2 (iff_of_true (hone.2 rfl) rfl)
  · exact exactlyOne_err _
  · exact exactlyOne_exchangeServerSet _

lemma exactlyOne_systemExchange (query : Query) (lookup : SystemLookup ε) :
    ExactlyOne (.ok (systemExchange E query lookup)) := by
  fun_cases systemExchange E query lookup
  all_goals first
    | exact exactlyOne_response _
    | exact exactlyOne_err _

lemma exactlyOne_dhcp_iff (t : DHCPTransport ε) (query : Query) (servers : List Socksaddr) :
    (∀ schedules, ExactlyOne (t.exchange0 E query servers schedules)) ↔
    Answerable E (DHCPTransport.single query servers) (t.names query) t.attempts servers.length :=
  exactlyOne_exchange_tryOneName_iff (fun i server => definite_exchangeOne false (t.wire i server))
    fun _ => List.length_eq_zero_iff.symm

lemma exactlyOne_local_iff (t : LocalTransport ε) (query : Query) :
    (∀ schedules, ExactlyOne (t.exchangeServers E query schedules)) ↔
    ∃ config, t.systemConfig = some config ∧ Answerable E (single config query)
    (config.nameList query.name) config.attempts (config.servers.length % 2 ^ 32) := by
  cases hconfig : t.systemConfig with
  | none =>
    refine iff_of_false (fun h => ?_) fun ⟨config, h, _⟩ => Option.some_ne_none config h.symm
    have hstop := h fun _ => .cancel (E.new "")
    rw [exchangeServers, hconfig] at hstop
    exact not_exactlyOne_error hstop
  | some config =>
    simp only [exchangeServers, hconfig, Option.some.injEq, exists_eq_left']
    exact exactlyOne_exchange_tryOneName_iff
      (fun i server => definite_exchangeOne config.useTCP (t.wire i server))
      fun _ => rotated_eq_nil_iff

lemma exactlyOne_resolved_iff (t : ResolvedTransport ε) (link : ℕ)
    (servers : List Resolved.Server) (query : Query) :
    (∀ schedules, ExactlyOne (t.exchangeServers E link servers query schedules)) ↔
    Answerable E (!query.isAddress) (t.names link query) t.attempts (servers.length % 2 ^ 32) :=
  exactlyOne_exchange_tryOneName_iff
    (fun i server => ⟨_, rfl, (t.answers i server).definite⟩) fun _ => rotated_eq_nil_iff

end ExactlyOne

/-! ### All transports -/

inductive Transport (ε : Type) where
  | localTransport (t : LocalTransport ε)
  | dhcpTransport (t : DHCPTransport ε)
  | resolvedTransport (t : ResolvedTransport ε)

namespace Transport

def exchange (query : Query) (schedules : ∀ n, Schedule n ε) :
    Transport ε → Except NoReturn (Returned ε)
  | .localTransport t => t.exchange E query schedules
  | .dhcpTransport t => t.exchange E query schedules
  | .resolvedTransport t => t.exchange E query schedules

/-- There are a name and a server to ask, and nothing is missing. -/
def Answerable (query : Query) : Transport ε → Prop
  | .localTransport t =>
    match t.source query with
    | .dhcp transport =>
      Resolving.Answerable E (DHCPTransport.single query transport.fetched.1)
        (transport.names query) transport.attempts transport.fetched.1.length
    | .servers =>
      ∃ config, t.systemConfig = some config ∧
        Resolving.Answerable E (single config query) (config.nameList query.name)
          config.attempts (config.servers.length % 2 ^ 32)
    | _ => True
  | .dhcpTransport t =>
    t.fetched.2 = none → t.fetched.1 ≠ [] →
      Resolving.Answerable E (DHCPTransport.single query t.fetched.1) (t.names query) t.attempts
        t.fetched.1.length
  | .resolvedTransport t =>
    match t.service.selectLink t.acceptDefaultResolvers t.order query.name with
    | .error _ => False
    | .ok none => True
    | .ok (some link) =>
      match t.service.linkServers.get? link with
      | none => False
      | some servers =>
        servers ≠ [] → Resolving.Answerable E (!query.isAddress) (t.names link query) t.attempts
          (servers.length % 2 ^ 32)

variable {E}

lemma exactlyOne_localTransport_iff (t : LocalTransport ε) (query : Query) :
    (∀ schedules, ExactlyOne ((localTransport t).exchange E query schedules)) ↔
    (localTransport t).Answerable E query := by
  simp only [exchange, LocalTransport.exchange, Answerable]
  cases t.source query with
  | fixed response => exact iff_of_true (fun _ => exactlyOne_response response) trivial
  | system => exact iff_of_true (fun _ => exactlyOne_systemExchange query t.system) trivial
  | mdns => exact iff_of_true (fun _ => t.mdnsTransport.exactlyOne_exchange query) trivial
  | resolved resolver => exact iff_of_true (fun _ => resolver.exactlyOne_exchange) trivial
  | dhcp transport => exact exactlyOne_dhcp_iff transport query transport.fetched.1
  | servers => exact exactlyOne_local_iff t query

lemma exactlyOne_dhcpTransport_iff (t : DHCPTransport ε) (query : Query) :
    (∀ schedules, ExactlyOne ((dhcpTransport t).exchange E query schedules)) ↔
    (dhcpTransport t).Answerable E query := by
  simp only [exchange, DHCPTransport.exchange, Answerable]
  cases t.fetched.2 with
  | some err =>
    exact iff_of_true (fun _ => exactlyOne_err err) fun h => absurd h (Option.some_ne_none err)
  | none =>
    split_ifs with hsrvs
    · exact iff_of_true (fun _ => exactlyOne_err _) fun _ h => absurd hsrvs h
    · rw [exactlyOne_dhcp_iff]
      exact ⟨fun h _ _ => h, fun h => h rfl hsrvs⟩

lemma exactlyOne_resolvedTransport_iff (t : ResolvedTransport ε) (query : Query) :
    (∀ schedules, ExactlyOne ((resolvedTransport t).exchange E query schedules)) ↔
    (resolvedTransport t).Answerable E query := by
  have hstop : ∀ stop : NoReturn, ¬∀ _ : ∀ n, Schedule n ε,
      ExactlyOne (.error stop : Except NoReturn (Returned ε)) := fun stop h =>
    not_exactlyOne_error (h fun _ => .cancel (E.new ""))
  simp only [exchange, ResolvedTransport.exchange, Answerable]
  cases t.service.selectLink t.acceptDefaultResolvers t.order query.name with
  | error stop => exact iff_of_false (hstop stop) id
  | ok link =>
    cases link with
    | none => exact iff_of_true (fun _ => exactlyOne_response _) trivial
    | some link =>
      dsimp only
      cases t.service.linkServers.get? link with
      | none => exact iff_of_false (hstop .nilPointer) id
      | some servers =>
        dsimp only
        split_ifs with hsrvs
        · exact iff_of_true (fun _ => exactlyOne_response _) fun h => absurd hsrvs h
        · rw [exactlyOne_resolved_iff]
          exact ⟨fun h _ => h, fun h => h hsrvs⟩

end Transport

open Transport

def clientResult : Except NoReturn (Returned ε) → Except NoReturn TransportResult
  | .error stop => .error stop
  | .ok ⟨_, some err⟩ =>
    match E.rcode err with
    | some rcode => .ok (.rcode rcode)
    | none => .ok .error
  | .ok ⟨some response, none⟩ => .ok (.ok response)
  | .ok ⟨none, none⟩ => .error .nilPointer

def textErrors : Exceptions String where
  new := id
  cause
    | none, _ => .error .library
    | some err, message => .ok (some (String.ofList message ++ ": " ++ err))
  errors
    | [] => none
    | err :: errs => some (" | ".intercalate (err :: errs))
  rcode _ := none
  cause_some _ _ := ⟨_, rfl⟩
  errors_isSome
    | [], h => absurd rfl h
    | _ :: _, _ => rfl

def onionQuestion : Question := { name := "x.onion.", qtype := 16, qclass := dnsClassINET }

def onionQuery : Query where
  message :=
    { hdr := { id := 7 }, question := [onionQuestion], answer := [], ns := [], extra := [] }
  question := onionQuestion
  first := rfl

def answeringWire : Wire String where
  dialUDP := none
  pack := none
  write := none
  read := none
  unpack := .ok (fixedResponseStatus onionQuery.message rcodeSuccess)
  dialTCP := none
  writeMessage := none
  readMessage := .error "EOF"

def onionDHCP : DHCPTransport String where
  fetched := ([{ addr := some (.v4 0xc0000201#32), port := 53 }], none)
  search := []
  ndots := 1
  attempts := 2
  wire _ _ := answeringWire

def onionLocal : LocalTransport String where
  hosts := none
  neighborResolver := none
  neighborSuffixes := []
  isDarwin := false
  mdnsTransport :=
    { queryTargets := none, pack := none, targets := [], group := none, ctx := none
      text := fun _ => "" }
  resolved := none
  dhcpTransport := none
  fallback := false
  system := .unavailable "invalid argument"
  systemConfig := some
    { servers := ["192.0.2.1:53"]
      search := []
      ndots := 1
      attempts := 2
      rotate := false
      singleRequest := false
      useTCP := false }
  soffset _ := 0
  wire _ _ := answeringWire

def onionService : Resolved.State :=
  let eth0 : Option Resolved.Interface := some { pointer := 1, name := "eth0" }
  let s := ({} : Resolved.State).setLinkDNS 2 eth0 [{ family := 2, address := [192, 0, 2, 1] }]
  s.setLinkDomains 2 eth0 [{ domain := ".", routingOnly := true }]

def onionServer : Resolved.Server where
  id := 1
  address := .v4 0xc0000201#32
  port := 53
  dnsOverTLS := false
  serverName := ""

def onionResolved : ResolvedTransport String where
  service := onionService
  order := onionService.links.entries
  perm := .refl _
  acceptDefaultResolvers := true
  ndots := 1
  attempts := 2
  rotate := false
  serverOffset _ := 0
  answers _ _ :=
    { response := some (fixedResponseStatus onionQuery.message rcodeSuccess)
      err := none
      definite := fun _ => rfl }

def anySchedules (n : ℕ) : Schedule n String := .cancel "context canceled"

/-- Each of the three transports returns exactly one of the two if and only if the query is
answerable. -/
theorem forall_exactlyOne_iff_answerable (query : Query) (t : Transport ε) :
    (∀ schedules, ExactlyOne (t.exchange E query schedules)) ↔ t.Answerable E query :=
  match t with
  | .localTransport t => exactlyOne_localTransport_iff t query
  | .dhcpTransport t => exactlyOne_dhcpTransport_iff t query
  | .resolvedTransport t => exactlyOne_resolvedTransport_iff t query

/-- There is neither for text records of an onion name. -/
theorem not_exactlyOne_onion :
    (localTransport onionLocal).exchange textErrors onionQuery anySchedules = .ok ⟨none, none⟩ ∧
    (dhcpTransport onionDHCP).exchange textErrors onionQuery anySchedules = .ok ⟨none, none⟩ ∧
    (resolvedTransport onionResolved).exchange textErrors onionQuery anySchedules =
      .ok ⟨none, none⟩ ∧
    clientResult textErrors (.ok ⟨none, none⟩) = .error .nilPointer := by
  refine ⟨?_, ?_, ?_, rfl⟩
  · have hsrc : onionLocal.source onionQuery = .servers := rfl
    rw [Transport.exchange, LocalTransport.exchange, hsrc]
    exact exchange_of_names_eq_nil (by decide +kernel)
  · have hexch : onionDHCP.exchange textErrors onionQuery anySchedules =
        onionDHCP.exchange0 textErrors onionQuery onionDHCP.fetched.1 anySchedules := rfl
    rw [Transport.exchange, hexch]
    exact exchange_of_names_eq_nil (by decide +kernel)
  · have hselect : onionResolved.service.selectLink onionResolved.acceptDefaultResolvers
        onionResolved.order onionQuery.name = .ok (some 0) := rfl
    have hsrvs : onionResolved.service.linkServers.get? 0 = some [onionServer] := by
      decide +kernel
    have hexch : onionResolved.exchange textErrors onionQuery anySchedules =
        onionResolved.exchangeServers textErrors 0 [onionServer] onionQuery anySchedules := by
      rw [ResolvedTransport.exchange, hselect]
      dsimp only
      rw [hsrvs]
      exact if_neg (List.cons_ne_nil _ _)
    rw [Transport.exchange, hexch]
    exact exchange_of_names_eq_nil (by decide +kernel)

end SingBox.SystemTransports
