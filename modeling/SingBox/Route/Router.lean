import SingBox.Route.Sniff
import SingBox.Rule.Abstract

/-!
# Routing connections and packet flows

A matching rule may change the metadata, sniff, or end the search.
-/

namespace SingBox

structure RouteOptions where
  overrideAddress : Option Socksaddr := none
  overridePort : ℕ := 0

inductive RuleAction where
  | route (outbound : String) (options : RouteOptions)
  | routeOptions (options : RouteOptions)
  | bypass (outbound : String) (options : RouteOptions)
  | direct
  | reject (reply : Bool)
  | hijackDNS
  | sniff (action : SniffAction)
  | resolve (server : String)

structure RouteRule where
  rule : HeadlessRule
  action : RuleAction

structure RouteEnv extends SniffEnv where
  rules : List RouteRule
  /-- What is found out first. A missing FakeIP record is fatal. -/
  prepare : InboundContext → Option InboundContext
  /-- The lookup on a server, the default one if the tag is empty. -/
  lookup : String → String → Option (List Addr)
  outbound : String → Option (List String)
  defaultOutbound : String
  defaultNetworks : List String

inductive Input where
  | none
  | stream (conn : StreamConn)
  | packet (conn : PacketConn)

structure Flow where
  metadata : InboundContext
  input : Input
  buffers : List Bytes := []
  packetBuffers : List PacketBuffer := []

def RouteOptions.apply (options : RouteOptions) (metadata : InboundContext) : InboundContext :=
  let metadata := match options.overrideAddress with
    | some address =>
      { metadata with
        destination :=
          { addr := address.addr, port := metadata.destination.port, fqdn := address.fqdn }
        destinationAddresses := [] }
    | none => metadata
  if 0 < options.overridePort then
    { metadata with
      destination :=
        { addr := metadata.destination.addr, port := options.overridePort,
          fqdn := metadata.destination.fqdn } }
  else metadata

def RuleAction.applyOptions (action : RuleAction) (metadata : InboundContext) : InboundContext :=
  match action with
  | .route _ options => options.apply metadata
  | .routeOptions options => options.apply metadata
  | .bypass outbound options => if outbound ≠ "" then options.apply metadata else metadata
  | _ => metadata

variable (env : RouteEnv)

def actionResolve (server : String) (metadata : InboundContext) : Option InboundContext :=
  if metadata.destination.fqdn = "" then some metadata
  else
    (env.lookup server metadata.destination.fqdn).map fun addresses =>
      { metadata with destinationAddresses := addresses }

def Flow.sniff (action : SniffAction) (flow : Flow) : Option Flow :=
  match flow.input with
  | .none => some flow
  | .stream conn =>
    let (metadata, conn, newBuffer) :=
      actionSniffStream env.toSniffEnv action flow.metadata conn flow.buffers
    some { flow with
      metadata := metadata
      input := .stream conn
      buffers := match newBuffer with
        | some buffer => flow.buffers ++ [buffer]
        | none => flow.buffers }
  | .packet conn =>
    let sniffed := actionSniffPacket env.toSniffEnv action flow.metadata conn flow.packetBuffers
    if sniffed.fatal then none
    else
      some { flow with
        metadata := sniffed.metadata
        input := .packet sniffed.conn
        packetBuffers := flow.packetBuffers ++ sniffed.packetBuffers }

inductive RuleStep where
  | fatal
  | next (flow : Flow)
  | selected (flow : Flow)

def RouteRule.act (preMatch supportBypass : Bool) (rule : RouteRule) (flow : Flow) : RuleStep :=
  let flow := { flow with metadata := rule.action.applyOptions flow.metadata }
  match rule.action with
  | .route _ _ | .reject _ | .hijackDNS => .selected flow
  | .routeOptions _ | .direct => .next flow
  | .bypass outbound _ => if !supportBypass && outbound == "" then .next flow else .selected flow
  | .sniff action =>
    if preMatch then
      if flow.metadata.network ≠ "icmp" then .selected flow else .next flow
    else
      match flow.sniff env action with
      | none => .fatal
      | some flow => .next flow
  | .resolve server =>
    match actionResolve env server flow.metadata with
    | none => .fatal
    | some metadata => .next { flow with metadata := metadata }

def RouteRule.try (preMatch supportBypass : Bool) (rule : RouteRule) (flow : Flow) : RuleStep :=
  let flow := { flow with metadata := flow.metadata.resetRuleCache }
  if rule.rule.match flow.metadata then rule.act env preMatch supportBypass flow else .next flow

def matchRules (env : RouteEnv) (preMatch supportBypass : Bool) :
    List RouteRule → Flow → Option (Option RouteRule × Flow)
  | [], flow => some (none, flow)
  | rule :: rules, flow =>
    match rule.try env preMatch supportBypass flow with
    | .fatal => none
    | .next flow => matchRules env preMatch supportBypass rules flow
    | .selected flow => some (some rule, flow)

variable (metadata : InboundContext)

def preparedMetadata : Option InboundContext :=
  (env.prepare metadata).map fun metadata =>
    if metadata.destination.isIPv4 then { metadata with ipVersion := 4 }
    else if metadata.destination.isIPv6 then { metadata with ipVersion := 6 }
    else metadata

def matchRule (preMatch supportBypass : Bool) (input : Input) : Option (Option RouteRule × Flow) :=
  match preparedMetadata env metadata with
  | none => none
  | some metadata => matchRules env preMatch supportBypass env.rules { metadata, input }

/-- A connection, wrapped in buffers that are read before it. -/
inductive CachedConn where
  | client (conn : StreamConn)
  | cached (inner : CachedConn) (buffer : Bytes)

def CachedConn.pending : CachedConn → Bytes
  | client _ => []
  | cached inner buffer => buffer ++ inner.pending

def CachedConn.delivered : CachedConn → Bytes
  | client conn => conn.delivered
  | cached inner _ => inner.delivered

inductive Target where
  | outbound (tag : String)
  | hijackDNS
deriving DecidableEq

/-- A fatal error of `matchRule` is passed on. -/
inductive Routed (γ : Type) where
  | fatal
  | error (message : String)
  | rejected
  | handed (target : Target) (conn : γ)

/-- `name` and `defaultText` are for messages. -/
def selectTarget (network name defaultText : String) (selected : Option RouteRule) : Routed Unit :=
  let lookup (tag : String) : Routed Unit :=
    match env.outbound tag with
    | none => .error ("outbound not found: " ++ tag)
    | some networks =>
      if networks.contains network then .handed (.outbound tag) ()
      else .error (name ++ " is not supported by outbound: " ++ tag)
  match selected.map RouteRule.action with
  | some (.route tag _) => lookup tag
  | some (.bypass tag _) => lookup tag
  | some (.reject true) =>
    .error ("reject method `reply` is not supported for " ++ name ++ " connections")
  | some (.reject false) => .rejected
  | some .hijackDNS => .handed .hijackDNS ()
  -- No rule with another action is ever selected here.
  | _ =>
    if env.defaultNetworks.contains network then .handed (.outbound env.defaultOutbound) ()
    else .error (name ++ " is not supported by " ++ defaultText ++ ": " ++ env.defaultOutbound)

def routeConnection (conn : StreamConn) : Routed CachedConn :=
  let metadata := { metadata with network := "tcp" }
  if metadata.inboundType == "tun" && metadata.protocol == "dns" then
    .handed .hijackDNS (.client conn)
  else
    match matchRule env metadata false false (.stream conn) with
    | none => .fatal
    | some (selected, flow) =>
      let conn := match flow.input with
        | .stream conn => conn
        | _ => conn
      match selectTarget env "tcp" "TCP" "default outbound" selected with
      | .fatal => .fatal
      | .error message => .error message
      | .rejected => .rejected
      | .handed target () => .handed target (flow.buffers.foldl .cached (.client conn))

def routePacketConnection (conn : PacketConn) : Routed (List PacketBuffer × PacketConn) :=
  let metadata := { metadata with network := "udp" }
  if metadata.inboundType == "tun" && metadata.protocol == "dns" then
    .handed .hijackDNS ([], conn)
  else
    match matchRule env metadata false false (.packet conn) with
    | none => .fatal
    | some (selected, flow) =>
      let conn := match flow.input with
        | .packet conn => conn
        | _ => conn
      match selectTarget env "udp" "UDP" "outbound" selected with
      | .fatal => .fatal
      | .error message => .error message
      | .rejected => .rejected
      | .handed target () => .handed target (flow.packetBuffers, conn)

/-- Only rules with these actions end the search. -/
def RuleAction.Final : RuleAction → Prop
  | .route _ _ | .reject _ | .hijackDNS => True
  | .bypass outbound _ => outbound ≠ ""
  | _ => False

/-- The outbound of the rule, or the default one if there is none. It has the network. -/
def Chosen (env : RouteEnv) (network tag : String) : Option RouteRule → Prop
  | some rule => rule ∈ env.rules ∧ (∃ options, rule.action = .route tag options ∨
      rule.action = .bypass tag options) ∧ ∃ networks ∈ env.outbound tag, network ∈ networks
  | none => tag = env.defaultOutbound ∧ network ∈ env.defaultNetworks

variable {env : RouteEnv} {rule : RouteRule} {flow flow' : Flow}

lemma RouteRule.final_of_try (h : rule.try env false false flow = .selected flow') :
    rule.action.Final := by
  unfold RouteRule.try RouteRule.act at h
  unfold RuleAction.Final
  grind

lemma final_of_matchRules {rules : List RouteRule}
    (h : matchRules env false false rules flow = some (some rule, flow')) :
    rule ∈ rules ∧ rule.action.Final := by
  induction rules generalizing flow with
  | nil => simp [matchRules] at h
  | cons first rules ih =>
    rw [matchRules] at h
    cases htry : first.try env false false flow with
    | fatal => simp [htry] at h
    | next flow => exact (ih (by simpa [htry] using h)).imp_left (List.mem_cons_of_mem _)
    | selected flow =>
      obtain ⟨rfl, -⟩ : first = rule ∧ flow = flow' := by simpa [htry] using h
      exact ⟨List.mem_cons_self, RouteRule.final_of_try htry⟩

lemma chosen_of_selectTarget {metadata : InboundContext} {input : Input}
    {selected : Option RouteRule} {network name defaultText tag : String}
    (hmatch : matchRule env metadata false false input = some (selected, flow))
    (h : selectTarget env network name defaultText selected = .handed (.outbound tag) ()) :
    Chosen env network tag selected := by
  rcases selected with _ | ⟨rule, action⟩
  · simp [selectTarget] at h
    grind [Chosen]
  · unfold matchRule at hmatch
    split at hmatch
    · simp at hmatch
    · obtain ⟨hmem, hfinal⟩ := final_of_matchRules hmatch
      rcases action with _ | _ | _ | _ | (_ | _) | _ | _ | _ <;>
        simp [RuleAction.Final, selectTarget] at hfinal h <;> grind [Chosen]

/-- A connection is handed only to the outbound of the rule that ends the search, or to the default
one if none does, and only if the outbound has the network. -/
theorem routed_chosen (env : RouteEnv) (metadata : InboundContext) (tag : String) :
    (∀ conn conn', routeConnection env metadata conn = .handed (.outbound tag) conn' →
      ∃ selected flow, matchRule env { metadata with network := "tcp" } false false
        (.stream conn) = some (selected, flow) ∧ Chosen env "tcp" tag selected) ∧
    ∀ conn conn', routePacketConnection env metadata conn = .handed (.outbound tag) conn' →
    ∃ selected flow, matchRule env { metadata with network := "udp" } false false
    (.packet conn) = some (selected, flow) ∧ Chosen env "udp" tag selected := by
  constructor <;> intro conn conn' h
  · unfold routeConnection at h
    grind [chosen_of_selectTarget]
  · unfold routePacketConnection at h
    grind [chosen_of_selectTarget]

end SingBox
