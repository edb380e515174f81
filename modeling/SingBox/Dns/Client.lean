import SingBox.Dns.Message
import SingBox.Lib.Table

/-!
# The DNS client

A stale entry may be used while it is refreshed in the background. Calls run one after the other; a
refresh ends at any later time.
-/

namespace SingBox

structure ClientConfig where
  disableCache : Bool := false
  disableExpire : Bool := false
  /-- For how long a stale entry may be used, zero if never. -/
  optimisticTimeout : ℕ := 0
  clientSubnet : Option IPPrefix := none
  hasRDRC : Bool := false
  persistent : Bool := false
  pack : Msg → Option (List UInt8) := fun _ => none
  unpack : List UInt8 → Option Msg := fun _ => none

/-- The key of a response. The cache file does not distinguish classes. -/
structure CacheKey where
  transportTag : String
  name : String
  qtype : ℕ
  qclass : Option ℕ
deriving DecidableEq

inductive Stored where
  | message (message : Msg)
  | packed (rawMessage : List UInt8)

structure CacheEntry where
  stored : Stored
  expireAt : ℕ

abbrev ResponseChecker := Msg → Bool

structure Refresh where
  transportTag : String
  question : Question
  message : Msg
  options : DNSQueryOptions
  responseChecker : Option ResponseChecker

structure ClientState where
  cache : Table CacheKey CacheEntry
  rdrc : List (String × String × ℕ) := []
  backgroundRefresh : List Refresh := []

def ClientState.initial : ClientState where
  cache := Table.empty

inductive TransportResult where
  | ok (response : Msg)
  | rcode (rcode : ℕ)
  | error

inductive DNSError where
  | rejected (response : Msg)
  | rejectedCached
  | loopback (transportTag : String)
  | rcode (rcode : ℕ)
  | transport
deriving DecidableEq

structure Answered (α : Type) where
  cached : Bool
  result : Except DNSError α

def second : ℕ := 1000000000

variable (c : ClientConfig) (transportTag : String)

def ClientConfig.cacheKey (question : Question) : CacheKey where
  transportTag := transportTag
  name := question.name
  qtype := question.qtype
  qclass := if c.persistent then none else some question.qclass

def ClientConfig.entryMessage (entry : CacheEntry) : Option Msg :=
  match entry.stored with
  | .message message => some message
  | .packed rawMessage => c.unpack rawMessage

variable (now : ℕ) (key : CacheKey)

def storeCache (message : Msg) (timeToLive : ℕ) (state : ClientState) : ClientState :=
  let expireAt := now + timeToLive * second
  if timeToLive = 0 then state
  else if c.persistent then
    match c.pack message with
    | some packed => { state with cache := state.cache.insert key ⟨.packed packed, expireAt⟩ }
    | none => state
  else if c.disableCache then state
  else { state with cache := state.cache.insert key ⟨.message message, expireAt⟩ }

def loadResponse (state : ClientState) : Option (Msg × Bool) × ClientState :=
  -- Without a file, a client with `disableCache` has no cache at all.
  match if !c.persistent && c.disableCache then none else state.cache key with
  | none => (none, state)
  | some entry =>
    match c.entryMessage entry with
    | none => (none, state)
    | some response =>
      if c.disableExpire then (some (response, false), state)
      else if entry.expireAt < now then
        if 0 < c.optimisticTimeout ∧ now < entry.expireAt + c.optimisticTimeout then
          (some (normalizeTTL response 1, true), state)
        else if c.persistent then (none, state)
        else (none, { state with cache := state.cache.erase key })
      else (some (normalizeTTL response ((entry.expireAt - now) / second), false), state)

variable (message : Msg) (options : DNSQueryOptions)

def prepareExchangeMessage : Msg :=
  match options.clientSubnet.or c.clientSubnet with
  | some clientSubnet => setClientSubnet message clientSubnet
  | none => message

def exchangeToTransport (transport : Msg → TransportResult) (message : Msg) : Option Msg :=
  match transport message with
  | .ok response => some (stripDNSPadding response)
  | .rcode rcode => some (fixedResponseStatus message rcode)
  | .error => none

def isCacheableRcode (rcode : ℕ) : Bool := rcode = rcodeSuccess || rcode = rcodeNameError

def isRejected (responseChecker : Option ResponseChecker) (response : Msg) : Bool :=
  match responseChecker with
  | none => false
  | some check => if isCacheableRcode response.hdr.rcode then !check response else true

def rdrcKey (question : Question) : String × String × ℕ :=
  (transportTag, question.name, question.qtype)

def saveRDRC (question : Question) (state : ClientState) : ClientState :=
  if c.hasRDRC then { state with rdrc := rdrcKey transportTag question :: state.rdrc } else state

def backgroundRefreshDNS (refresh : Refresh) (state : ClientState) : ClientState :=
  if state.backgroundRefresh.any fun running =>
      running.transportTag == refresh.transportTag && running.question == refresh.question then
    state
  else { state with backgroundRefresh := refresh :: state.backgroundRefresh }

def finishRefresh (refresh : Refresh) (transport : Msg → TransportResult)
    (state : ClientState) : ClientState :=
  match exchangeToTransport transport refresh.message with
  | none => state
  | some response =>
    if isRejected refresh.responseChecker response then
      saveRDRC c refresh.transportTag refresh.question state
    else if !isCacheableRcode response.hdr.rcode then state
    else
      let (response, timeToLive) := applyResponseOptions refresh.question response refresh.options
      storeCache c now (c.cacheKey refresh.transportTag refresh.question) response timeToLive state

structure Call where
  transportTag : String
  message : Msg
  options : DNSQueryOptions
  responseChecker : Option ResponseChecker := none
  contextTransport : Option String := none

def Call.refresh (call : Call) (question : Question) : Refresh where
  transportTag := call.transportTag
  question := question
  message := prepareExchangeMessage c call.message call.options
  options := call.options
  responseChecker := call.responseChecker

def strategyRejected (question : Question) (options : DNSQueryOptions) : Bool :=
  question.qtype = dnsTypeA && options.strategy = .ipv6Only ||
    question.qtype = dnsTypeAAAA && options.strategy = .ipv4Only

def isPlainEdns0 (extra : List RR) : Bool :=
  match extra with
  | [] => true
  | [record] =>
    record.hdr.rrtype = dnsTypeOPT && 0 < record.hdr.rrclass && record.hdr.ttl = 0 &&
      (match record.data with
        | .opt option => option.isEmpty
        | _ => false)
  | _ => false

def isSimpleRequest : Bool :=
  message.question.length = 1 && message.ns.isEmpty && isPlainEdns0 message.extra &&
    options.clientSubnet.isNone

def exchangeDisablesCache : Bool :=
  !isSimpleRequest message options || c.disableCache || options.disableCache

def exchangeMiss (call : Call) (question : Question) (message : Msg)
    (disableCache : Bool) (transport : Msg → TransportResult) (state : ClientState) :
    Except DNSError Msg × ClientState :=
  if call.contextTransport = some call.transportTag then
    (.error (.loopback call.transportTag), state)
  else if !disableCache && call.responseChecker.isSome && c.hasRDRC &&
      state.rdrc.contains (rdrcKey call.transportTag question) then
    (.error .rejectedCached, state)
  else
    match exchangeToTransport transport message with
    | none => (.error .transport, state)
    | some response =>
      let disableCache := disableCache || !isCacheableRcode response.hdr.rcode
      if isRejected call.responseChecker response then
        (.error (.rejected response),
          if disableCache then state else saveRDRC c call.transportTag question state)
      else
        let (response, timeToLive) := applyResponseOptions question response call.options
        let state := if disableCache then state
          else storeCache c now (c.cacheKey call.transportTag question) response timeToLive state
        (.ok (adaptEdns0 message (response.withId message.hdr.id)), state)

def exchangeCached (call : Call) (question : Question) (message : Msg)
    (state : ClientState) : Option Msg × ClientState :=
  match loadResponse c now (c.cacheKey call.transportTag question) state with
  | (none, state) => (none, state)
  | (some (response, isStale), state) =>
    if isStale && !call.options.disableOptimisticCache then
      (some (response.withId message.hdr.id), backgroundRefreshDNS (call.refresh c question) state)
    else if !isStale then (some (response.withId message.hdr.id), state)
    else (none, state)

def exchange (call : Call) (transport : Msg → TransportResult) (state : ClientState) :
    Answered Msg × ClientState :=
  match call.message.question with
  | [] => (⟨false, .ok (fixedResponseStatus call.message rcodeFormatError)⟩, state)
  | question :: _ =>
    if strategyRejected question call.options then
      (⟨false, .ok (fixedResponseStatus call.message rcodeSuccess)⟩, state)
    else
      let message := prepareExchangeMessage c call.message call.options
      let disableCache := exchangeDisablesCache c message call.options
      let (cached, state) :=
        if disableCache then (none, state) else exchangeCached c now call question message state
      match cached with
      | some response => (⟨true, .ok response⟩, state)
      | none =>
        let (result, state) := exchangeMiss c now call question message disableCache transport state
        (⟨false, result⟩, state)

def isFqdn (name : List Char) : Bool :=
  match name.reverse with
  | '.' :: rest => (rest.takeWhile (· = '\\')).length % 2 = 0
  | _ => false

def fqdnToDomain (fqdn : String) : String :=
  if isFqdn fqdn.toList then String.ofList fqdn.toList.dropLast else fqdn

def fqdn (domain : String) : String :=
  if isFqdn domain.toList then domain else String.ofList (domain.toList ++ ['.'])

structure LookupCall where
  transportTag : String
  domain : String
  options : DNSQueryOptions
  responseChecker : Option ResponseChecker := none
  contextTransport : Option String := none

def lookupOptions : DNSQueryOptions :=
  if options.lookupStrategy ≠ .asIS then { options with strategy := options.lookupStrategy }
  else options

def LookupCall.question (lookup : LookupCall) (qType : ℕ) : Question where
  name := fqdn (fqdnToDomain lookup.domain)
  qtype := qType
  qclass := dnsClassINET

def LookupCall.call (lookup : LookupCall) (qType : ℕ) : Call where
  transportTag := lookup.transportTag
  message :=
    { hdr := { recursionDesired := true }
      question := [lookup.question qType]
      answer := []
      ns := []
      extra := [] }
  options := lookupOptions lookup.options
  responseChecker := lookup.responseChecker
  contextTransport := lookup.contextTransport

def responseAddresses (response : Msg) : Except DNSError (List Addr) :=
  if response.hdr.rcode ≠ rcodeSuccess then .error (.rcode response.hdr.rcode)
  else .ok (messageToAddresses response)

def questionCache (call : Call) (question : Question) (state : ClientState) :
    Option (Except DNSError (List Addr)) × ClientState :=
  match loadResponse c now (c.cacheKey call.transportTag question) state with
  | (none, state) => (none, state)
  | (some (response, isStale), state) =>
    if isStale && call.options.disableOptimisticCache then (none, state)
    else
      let state := if isStale then backgroundRefreshDNS (call.refresh c question) state else state
      (some (responseAddresses response), state)

def lookupToExchange (lookup : LookupCall) (qType : ℕ)
    (transport : Msg → TransportResult) (state : ClientState) :
    Answered (List Addr) × ClientState :=
  let call := lookup.call qType
  let disableCache := c.disableCache || call.options.disableCache
  let (cached, state) := if disableCache then (none, state)
    else questionCache c now call (lookup.question qType) state
  match cached with
  | some result => (⟨true, result⟩, state)
  | none =>
    let (answered, state) := exchange c now call transport state
    (⟨answered.cached, answered.result.bind responseAddresses⟩, state)

def lookupTypes : List ℕ :=
  match (lookupOptions options).strategy with
  | .ipv4Only => [dnsTypeA]
  | .ipv6Only => [dnsTypeAAAA]
  | _ => [dnsTypeA, dnsTypeAAAA]

def sortAddresses (response4 response6 : List Addr) (strategy : DomainStrategy) : List Addr :=
  if strategy = .preferIPv6 then response6 ++ response4 else response4 ++ response6

def lookupEach (now : ℕ) (lookup : LookupCall) (transport : Msg → TransportResult) :
    List ℕ → ClientState → List (ℕ × Answered (List Addr)) × ClientState
  | [], state => ([], state)
  | qType :: qTypes, state =>
    let (answered, state) := lookupToExchange c now lookup qType transport state
    let (rest, state) := lookupEach now lookup transport qTypes state
    ((qType, answered) :: rest, state)

variable (answers : List (ℕ × Answered (List Addr)))

def addressesOf (qType : ℕ) : List Addr := answers.flatMap fun (asked, answered) =>
    if asked = qType then answered.result.toOption.getD [] else []

def errorsOf : List DNSError := answers.filterMap fun (_, answered) =>
    match answered.result with
    | .ok _ => none
    | .error error => some error

def lookup (now : ℕ) (lookup : LookupCall) (transport : Msg → TransportResult)
    (state : ClientState) :
    List (ℕ × Answered (List Addr)) × Except (List DNSError) (List Addr) × ClientState :=
  let (answers, state) := lookupEach c now lookup transport (lookupTypes lookup.options) state
  let response4 := addressesOf answers dnsTypeA
  let response6 := addressesOf answers dnsTypeAAAA
  -- An error is lost when the other record type has addresses.
  if response4.isEmpty && response6.isEmpty && !(errorsOf answers).isEmpty then
    (answers, .error (errorsOf answers), state)
  else
    (answers, .ok (sortAddresses response4 response6 (lookupOptions lookup.options).strategy),
      state)

end SingBox
