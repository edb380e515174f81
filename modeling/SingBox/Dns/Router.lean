import SingBox.Dns.Client
import SingBox.Rule.Dns

/-!
# The DNS router in legacy mode

A matching rule selects the server. If it limits the addresses and the response is rejected, the
search goes on after it.
-/

namespace SingBox

structure DNSRouteOptions where
  strategy : DomainStrategy := .asIS
  timeout : ℕ := 0
  disableCache : Bool := false
  disableOptimisticCache : Bool := false
  rewriteTTL : Option ℕ := none
  clientSubnet : Option IPPrefix := none

inductive RejectMethod where
  | default
  | drop
  | reply
deriving DecidableEq

inductive DNSRuleAction where
  | route (server : String) (options : DNSRouteOptions)
  | evaluate (server : String) (options : DNSRouteOptions)
  | respond
  | routeOptions (options : DNSRouteOptions)
  | reject (method : RejectMethod)
  | predefined (rcode : ℕ) (answer ns extra : List RR)

structure ActionRule where
  rule : DNSRule
  action : DNSRuleAction

/-- In legacy mode `disableOptimisticCache` is not looked at. -/
def DNSRouteOptions.applyTo (action : DNSRouteOptions) (options : DNSQueryOptions) :
    DNSQueryOptions where
  strategy := if action.strategy ≠ .asIS then action.strategy else options.strategy
  lookupStrategy := options.lookupStrategy
  disableCache := if action.disableCache then true else options.disableCache
  disableOptimisticCache := options.disableOptimisticCache
  rewriteTTL := if action.rewriteTTL ≠ none then action.rewriteTTL else options.rewriteTTL
  timeout := if 0 < action.timeout then action.timeout else options.timeout
  clientSubnet := if action.clientSubnet.isSome then action.clientSubnet else options.clientSubnet

structure DNSTransport where
  tag : String
  isFakeIP : Bool := false

structure DNSRouterEnv where
  transport : String → Option DNSTransport
  defaultTransport : DNSTransport
  defaultDomainStrategy : DomainStrategy := .asIS

structure DNSSearch where
  env : DNSRouterEnv
  metadata : InboundContext
  allowFakeIP : Bool
  isAddressQuery : Bool

structure DNSMatch where
  transport : Option DNSTransport
  rule : Option (ℕ × ActionRule)
  options : DNSQueryOptions

namespace DNSSearch
variable (search : DNSSearch)

def preMatches (rule : ActionRule) : Bool :=
  if rule.rule.withAddressLimit && !search.isAddressQuery then false
  else rule.rule.legacyPreMatch
    { search.metadata.resetRuleCache with destinationAddressMatchFromResponse := false }

def usableServer (server : String) : Option DNSTransport :=
  match search.env.transport server with
  | none => none
  | some transport => if transport.isFakeIP && !search.allowFakeIP then none else some transport

def routeOptions (transport : DNSTransport) (options : DNSRouteOptions) : DNSRouteOptions :=
  { options with disableCache := transport.isFakeIP || options.disableCache }

def matchFrom : List ActionRule → ℕ → DNSQueryOptions → DNSMatch
  | [], _, options => ⟨some search.env.defaultTransport, none, options⟩
  | rule :: rules, index, options =>
    if search.preMatches rule then
      match rule.action with
      | .route server routeOptions =>
        match search.usableServer server with
        | none => matchFrom rules (index + 1) options
        | some transport =>
          ⟨some transport, some (index, rule),
            (DNSSearch.routeOptions transport routeOptions).applyTo options⟩
      | .routeOptions routeOptions => matchFrom rules (index + 1) (routeOptions.applyTo options)
      | .reject _ | .predefined .. => ⟨none, some (index, rule), options⟩
      | .evaluate .. | .respond => matchFrom rules (index + 1) options
    else matchFrom rules (index + 1) options

def startIndex (ruleIndex : Option ℕ) : ℕ :=
  match ruleIndex with
  | none => 0
  | some index => index + 1

def matchDNS (rules : List ActionRule) (ruleIndex : Option ℕ) (options : DNSQueryOptions) :
    DNSMatch :=
  search.matchFrom (rules.drop (startIndex ruleIndex)) (startIndex ruleIndex) options

end DNSSearch

inductive ClientOutcome (α : Type) where
  | ok (answer : α)
  | rejected
  | failed

inductive LoopEnd (α : Type) where
  | action (action : DNSRuleAction)
  | outcome (outcome : ClientOutcome α)

def addressLimitResponseCheck (rule : Option ActionRule) (metadata : InboundContext) :
    Option ResponseChecker :=
  match rule with
  | none => none
  | some rule =>
    if rule.rule.withAddressLimit then
      some fun response => rule.rule.matchAddressLimit metadata response
    else none

structure ServerQuery where
  transport : Option DNSTransport
  options : DNSQueryOptions
  responseCheck : Option ResponseChecker

def DNSSearch.query (search : DNSSearch) (matched : DNSMatch) : ServerQuery where
  transport := matched.transport
  options := if matched.options.strategy = .asIS then
      { matched.options with strategy := search.env.defaultDomainStrategy }
    else matched.options
  responseCheck := addressLimitResponseCheck (matched.rule.map Prod.snd) search.metadata

/-- What `Exchange` and `Lookup` do differently in the loop. -/
structure LoopKind (α : Type) where
  ends : DNSRuleAction → Bool
  retries : ClientOutcome α → Bool

/-- `client` is given the index of the rule; `fuel` bounds the rounds. -/
def legacyLoop {α : Type} (search : DNSSearch) (kind : LoopKind α) (rules : List ActionRule)
    (options : DNSQueryOptions) (client : Option ℕ → ServerQuery → ClientOutcome α) :
    ℕ → Option ℕ → List DNSMatch × Option (LoopEnd α)
  | 0, _ => ([], none)
  | fuel + 1, ruleIndex =>
    let matched := search.matchDNS rules ruleIndex options
    let query := search.query matched
    let outcome := client (matched.rule.map Prod.fst) query
    match matched.rule.bind fun rule =>
        if kind.ends rule.2.action then some rule.2.action else none with
    | some action => ([], some (.action action))
    | none =>
      if query.responseCheck.isSome && kind.retries outcome then
        let (queries, last) :=
          legacyLoop search kind rules options client fuel (matched.rule.map Prod.fst)
        (matched :: queries, last)
      else ([matched], some (.outcome outcome))

inductive RouterError where
  | dropped
  | rejected
  | failed
  | rcode (rcode : ℕ)
  | emptyResult
deriving DecidableEq

variable (message : Msg)

def isAddressQuery : Bool := message.question.any fun question =>
    question.qtype = dnsTypeA || question.qtype = dnsTypeAAAA || question.qtype = dnsTypeHTTPS

variable (metadata : InboundContext) (question : Question)

def exchangeMetadata : InboundContext := { metadata with
    destination := {}
    queryType := question.qtype
    dnsResponse := none
    destinationAddressMatchFromResponse := false
    ipVersion := if question.qtype = dnsTypeA then 4
      else if question.qtype = dnsTypeAAAA then 6
      else metadata.ipVersion
    domain := fqdnToDomain question.name }

def lookupMetadata (domain : String) : InboundContext := { metadata with
    destination := {}
    domain := fqdnToDomain domain
    dnsResponse := none
    destinationAddressMatchFromResponse := false }

def rewriteRecord (record : RR) : RR :=
  match record.hdr.name.toList with
  | '*' :: suffix =>
    if suffix.isSuffixOf question.name.toList then
      { record with hdr := { record.hdr with name := question.name } }
    else record
  | _ => record

def predefinedResponse (question : Question) (rcode : ℕ) (answer ns extra : List RR) : Msg :=
  { fixedResponseStatus message rcode with
    answer := answer.map (rewriteRecord question)
    ns := ns.map (rewriteRecord question)
    extra := extra.map (rewriteRecord question) }

/-- In `Exchange` a rejection by reply does not end the loop. -/
def exchangeKind : LoopKind Msg where
  ends
    | .reject method => method ≠ .reply
    | .predefined .. => true
    | _ => false
  retries
    | .rejected => true
    | _ => false

/-- In `Lookup` every failure makes the loop go on. -/
def lookupKind : LoopKind (List Addr) where
  ends
    | .reject _ | .predefined .. => true
    | _ => false
  retries
    | .ok _ => false
    | _ => true

def LoopEnd.response (message : Msg) (question : Question) : LoopEnd Msg → Except RouterError Msg
  | .action (.reject .default) =>
    .ok ⟨{ id := message.hdr.id, rcode := rcodeRefused, response := true }, [question], [], [], []⟩
  | .action (.predefined rcode answer ns extra) =>
    .ok (predefinedResponse message question rcode answer ns extra)
  | .action _ => .error .dropped
  | .outcome (.ok response) => .ok response
  | .outcome .rejected => .error .rejected
  | .outcome .failed => .error .failed

variable (env : DNSRouterEnv)

def legacyExchange (metadata : InboundContext) (rules : List ActionRule)
    (message : Msg) (options : DNSQueryOptions)
    (client : Option ℕ → ServerQuery → ClientOutcome Msg) :
    List DNSMatch × Option (Except RouterError Msg) :=
  match message.question with
  | [question] =>
    let search : DNSSearch :=
      ⟨env, exchangeMetadata metadata question, true, isAddressQuery message⟩
    let (queries, last) :=
      legacyLoop search exchangeKind rules options client (rules.length + 1) none
    (queries, last.map (LoopEnd.response message question))
  | questions =>
    ([], some (.ok ⟨{ id := message.hdr.id, response := true, rcode := rcodeFormatError },
      questions, [], [], []⟩))

def predefinedAddresses (answer : List RR) : List Addr := answer.filterMap fun record =>
    match record.data with
    | .a ip | .aaaa ip => Addr.addrFromIP ip
    | _ => none

def LoopEnd.addresses : LoopEnd (List Addr) → Except RouterError (List Addr)
  | .action (.predefined rcode answer _ _) =>
    if rcode ≠ rcodeSuccess then .error (.rcode rcode)
    else if (predefinedAddresses answer).isEmpty then .error .emptyResult
    else .ok (predefinedAddresses answer)
  | .action _ => .error .rejected
  | .outcome (.ok []) => .error .emptyResult
  | .outcome (.ok addresses) => .ok addresses
  | .outcome .rejected => .error .rejected
  | .outcome .failed => .error .failed

def legacyLookup (metadata : InboundContext) (rules : List ActionRule)
    (domain : String) (options : DNSQueryOptions)
    (client : Option ℕ → ServerQuery → ClientOutcome (List Addr)) :
    List DNSMatch × Option (Except RouterError (List Addr)) :=
  let search : DNSSearch := ⟨env, lookupMetadata metadata domain, false, true⟩
  let (queries, last) := legacyLoop search lookupKind rules options client (rules.length + 1) none
  (queries, last.map LoopEnd.addresses)

end SingBox
