import SingBox.Dns.SystemTransports

/-!
# The Tailscale DNS transport

Each network has a table of hosts, one of resolvers, and default resolvers. A host is answered from
the first table. The second one is a map from suffixes to resolvers and is walked in an unknown
order; the first suffix of the name decides. A name with one label is completed with the search
domains if these are accepted, and its answer is presented under the name that was asked for.
-/

namespace SingBox.Tailscale
open Attempts Resolving SystemTransports
variable {ε σ : Type}

structure DNSTransport (ε σ : Type) where
  acceptDefaultResolvers : Bool
  acceptSearchDomain : Bool
  routes : OrderedMap String (List σ)
  hosts : OrderedMap String (List Addr)
  searchDomains : List String
  defaultResolvers : List σ
  countLabel : String → ℕ
  answers : σ → Msg → Returned ε
  errInvalid : ε
  errNameError : ε

inductive Target (σ : Type) where
  | hosts (addresses : List Addr)
  | route (transports : List σ)
  | defaultResolvers
  | nobody

def Target.isEntry : Target σ → Bool
  | .hosts _ | .route _ => true
  | .defaultResolvers | .nobody => false

namespace DNSTransport
variable (E : Exceptions ε) (t : DNSTransport ε σ)

def preferredDomain (domain : String) : Bool :=
  (t.hosts.get? domain).isSome ||
    t.routes.entries.any fun route => route.1.toList <:+ domain.toList

def hostAddresses (question : Question) : List Addr :=
  let addresses := (t.hosts.get? question.name).getD []
  if question.qtype = dnsTypeA then addresses.filter Addr.is4
  else if question.qtype = dnsTypeAAAA then addresses.filter Addr.is6
  else []

variable (order : List (String × List σ)) (query : Query) (name : String)

def lookup : Option (List σ) :=
  (order.find? fun route => route.1.toList <:+ name.toList).map Prod.snd

def target (transports : Option (List σ)) (question : Question) (allowDefaultResolvers : Bool) :
    Target σ :=
  if t.hostAddresses question ≠ [] then .hosts (t.hostAddresses question)
  else
    match transports with
    | some transports => .route transports
    | none => if allowDefaultResolvers then .defaultResolvers else .nobody

def exchangeEach (transports : List σ) (message : Msg) : Except NoReturn (Returned ε) :=
  (tryEach (fun transport => .ok (t.answers transport message).check) transports none).map fun
    | .ok response => ⟨response, none⟩
    | .error lastErr => ⟨none, lastErr⟩

def nameErrorResponse : Msg where
  hdr := { id := query.message.hdr.id, rcode := rcodeNameError, response := true }
  question := [query.question]
  answer := []
  ns := []
  extra := []

def exchangeOnce (allowDefaultResolvers : Bool) : Except NoReturn (Returned ε) :=
  match t.target (lookup order query.question.name) query.question allowDefaultResolvers with
  | .hosts addresses =>
    .ok ⟨some (fixedResponse query.message.hdr.id query.question addresses
      LocalTransport.defaultDNSTTL), none⟩
  | .route [] => .ok ⟨some (nameErrorResponse query), none⟩
  | .route transports => t.exchangeEach transports query.message
  | .defaultResolvers =>
    if t.defaultResolvers ≠ [] then t.exchangeEach t.defaultResolvers query.message
    else .ok ⟨none, some (E.new "missing default resolvers")⟩
  | .nobody => .ok ⟨none, some t.errNameError⟩

def expandedName (searchDomain : String) : String :=
  String.ofList (Text.trimSuffix ['.'] name.toList) ++ "." ++ searchDomain

def restoreOriginalQuestion (response : Msg) (expandedName : String) (originalQuestion : Question) :
    Msg :=
  { response with
    question := [originalQuestion]
    answer := response.answer.map fun rr =>
      if rr.hdr.name.toList.map Char.toLower = expandedName.toList.map Char.toLower then
        { rr with hdr := { rr.hdr with name := originalQuestion.name } }
      else rr }

def rewritten : Query where
  message := { query.message with question := [{ query.question with name }] }
  question := { query.question with name }
  first := rfl

/-- The table is walked anew for each search domain. -/
def exchangeWithSearchDomains (orders : ℕ → List (String × List σ)) (query : Query) :
    List String → Option ε → Except NoReturn (Returned ε)
  | [], lastErr => .ok ⟨none, some (lastErr.getD t.errNameError)⟩
  | searchDomain :: rest, lastErr =>
    let expanded := expandedName query.question.name searchDomain
    match t.exchangeOnce E (orders rest.length) (rewritten query expanded) false with
    | .error stop => .error stop
    | .ok ⟨none, none⟩ => .error .nilPointer
    | .ok ⟨some response, none⟩ =>
      if response.hdr.rcode = rcodeNameError then
        exchangeWithSearchDomains orders query rest lastErr
      else .ok ⟨some (restoreOriginalQuestion response expanded query.question), none⟩
    | .ok ⟨_, some err⟩ =>
      exchangeWithSearchDomains orders query rest
        (if E.rcode err = some rcodeNameError then lastErr else some err)

def names : List String :=
  if t.acceptSearchDomain ∧ t.countLabel name = 1 then
    t.searchDomains.map (expandedName name)
  else [name]

def exchange (orders : ℕ → List (String × List σ)) (query : Query) : Except NoReturn (Returned ε) :=
  if query.message.question.length ≠ 1 then .ok ⟨none, some t.errInvalid⟩
  else if t.acceptSearchDomain ∧ t.countLabel query.question.name = 1 then
    t.exchangeWithSearchDomains E orders query t.searchDomains none
  else t.exchangeOnce E (orders 0) query t.acceptDefaultResolvers

end DNSTransport

end SingBox.Tailscale
