import SingBox.Dns.Client

/-!
# Answers from the cache

Only `exchange` leaves the cache alone when a client subnet is in force.
-/

namespace SingBox
open LookupCall

/-! ### Loading -/

variable (c : ClientConfig)
variable {now : ℕ} {key : CacheKey} {state : ClientState}

variable {response : Msg}

lemma loadResponse_some {isStale : Bool}
    (h : (loadResponse c now key state).1 = some (response, isStale)) :
    ∃ entry stored, state.cache key = some entry ∧ c.entryMessage entry = some stored ∧
    (response = stored ∨ ∃ timeToLive, response = normalizeTTL stored timeToLive) := by
  unfold loadResponse at h
  split at h
  · simp at h
  · rename_i entry hent
    have hcache : state.cache key = some entry := by
      by_cases hdis : (!c.persistent && c.disableCache)
      · simp [hdis] at hent
      · simpa [hdis] using hent
    split at h
    · simp at h
    · rename_i stored hstored
      refine ⟨entry, stored, hcache, hstored, ?_⟩
      split_ifs at h <;> simp only [Option.some.injEq, Prod.mk.injEq] at h
      · exact .inl h.1.symm
      · exact .inr ⟨_, h.1.symm⟩
      · exact .inr ⟨_, h.1.symm⟩

lemma loadResponse_of_cache_none (h : state.cache key = none) :
    (loadResponse c now key state).1 = none := by
  simp [loadResponse, h]

variable (now key state)

lemma loadResponse_state :
    (loadResponse c now key state).2 = state ∨ (loadResponse c now key state).1 = none ∧
    (loadResponse c now key state).2 = { state with cache := state.cache.erase key } := by
  unfold loadResponse
  split
  · exact .inl rfl
  · split
    · exact .inl rfl
    · split_ifs
      · exact .inl rfl
      · exact .inl rfl
      · exact .inl rfl
      · exact .inr ⟨rfl, rfl⟩
      · exact .inl rfl

lemma loadResponse_rdrc : (loadResponse c now key state).2.rdrc = state.rdrc := by
  rcases loadResponse_state c now key state with hst | ⟨_, hst⟩ <;> rw [hst]

lemma loadResponse_again :
    (loadResponse c now key (loadResponse c now key state).2).1 =
    (loadResponse c now key state).1 := by
  rcases loadResponse_state c now key state with h | ⟨hnone, h⟩
  · rw [h]
  · rw [h, hnone]
    exact loadResponse_of_cache_none c (by simp [Table.erase])

def usableResponse (now : ℕ) (key : CacheKey) (options : DNSQueryOptions) (state : ClientState) :
    Option Msg :=
  match (loadResponse c now key state).1 with
  | none => none
  | some (response, isStale) =>
    if isStale && options.disableOptimisticCache then none else some response

lemma usableResponse_again (options : DNSQueryOptions) :
    usableResponse c now key options (loadResponse c now key state).2 =
    usableResponse c now key options state := by
  simp [usableResponse, loadResponse_again]

lemma exchangeCached_fst (call : Call) (question : Question) (message : Msg) :
    (exchangeCached c now call question message state).1 =
    (usableResponse c now (c.cacheKey call.transportTag question) call.options state).map
    fun response => response.withId message.hdr.id := by
  unfold exchangeCached usableResponse
  rcases loadResponse c now (c.cacheKey call.transportTag question) state with
    ⟨_ | ⟨response, isStale⟩, state'⟩
  · rfl
  · cases isStale <;> cases call.options.disableOptimisticCache <;> rfl

lemma questionCache_fst (call : Call) (question : Question) :
    (questionCache c now call question state).1 =
    (usableResponse c now (c.cacheKey call.transportTag question) call.options state).map
    responseAddresses := by
  unfold questionCache usableResponse
  rcases loadResponse c now (c.cacheKey call.transportTag question) state with
    ⟨_ | ⟨response, isStale⟩, state'⟩
  · rfl
  · cases isStale <;> cases call.options.disableOptimisticCache <;> rfl

variable {now key state} {question : Question} {call : Call}

lemma questionCache_snd_of_none (h : (questionCache c now call question state).1 = none) :
    (questionCache c now call question state).2 =
    (loadResponse c now (c.cacheKey call.transportTag question) state).2 := by
  revert h
  unfold questionCache
  rcases loadResponse c now (c.cacheKey call.transportTag question) state with
    ⟨_ | ⟨response, isStale⟩, state'⟩
  · intro _
    rfl
  · cases isStale <;> cases call.options.disableOptimisticCache <;> simp

/-! ### Exchanges -/

def exchangeUsable (now : ℕ) (call : Call) (question : Question) (state : ClientState) :
    Option Msg :=
  if strategyRejected question call.options then none
  else if exchangeDisablesCache c (prepareExchangeMessage c call.message call.options)
      call.options then none
  else usableResponse c now (c.cacheKey call.transportTag question) call.options state

variable (message : Msg)

lemma setClientSubnet_hdr (clientSubnet : IPPrefix) :
    (setClientSubnet message clientSubnet).hdr = message.hdr := rfl

lemma prepareExchangeMessage_hdr (options : DNSQueryOptions) :
    (prepareExchangeMessage c message options).hdr = message.hdr := by
  unfold prepareExchangeMessage
  split
  · exact setClientSubnet_hdr ..
  · rfl

variable {rest : List Question} (transport : Msg → TransportResult)

lemma exchange_of_usable (hq : call.message.question = question :: rest)
    (h : exchangeUsable c now call question state = some response) :
    (exchange c now call transport state).1 =
    ⟨true, .ok (response.withId call.message.hdr.id)⟩ := by
  unfold exchangeUsable at h
  split_ifs at h with hstrat hdis
  have hca : (exchangeCached c now call question
      (prepareExchangeMessage c call.message call.options) state).1 =
      some (response.withId call.message.hdr.id) := by
    rw [exchangeCached_fst, h, prepareExchangeMessage_hdr]
    rfl
  simp [exchange, hq, hstrat, hdis, hca]

lemma exchangeCached_rdrc_of_none {message : Msg}
    (h : (exchangeCached c now call question message state).1 = none) :
    (exchangeCached c now call question message state).2.rdrc = state.rdrc := by
  have hload := loadResponse_rdrc c now (c.cacheKey call.transportTag question) state
  revert h hload
  unfold exchangeCached
  rcases loadResponse c now (c.cacheKey call.transportTag question) state with
    ⟨_ | ⟨response, isStale⟩, state'⟩
  · intro _ hload
    exact hload
  · cases isStale <;> cases call.options.disableOptimisticCache <;> simp

lemma exchange_of_unusable (hq : call.message.question = question :: rest)
    (hstrat : strategyRejected question call.options = false)
    (h : exchangeUsable c now call question state = none) :
    ∃ disableCache state', state'.rdrc = state.rdrc ∧ (exchange c now call transport state).1 =
    ⟨false, (exchangeMiss c now call question
          (prepareExchangeMessage c call.message call.options) disableCache transport
            state').1⟩ := by
  by_cases hdis : exchangeDisablesCache c
      (prepareExchangeMessage c call.message call.options) call.options
  · refine ⟨true, state, rfl, ?_⟩
    simp [exchange, hq, hstrat, hdis]
  · rw [exchangeUsable, if_neg (by simp [hstrat]), if_neg hdis] at h
    have hca : (exchangeCached c now call question
        (prepareExchangeMessage c call.message call.options) state).1 = none := by
      rw [exchangeCached_fst, h]
      rfl
    refine ⟨false, _, exchangeCached_rdrc_of_none c hca, ?_⟩
    simp [exchange, hq, hstrat, hdis, hca]

lemma exchange_cached_of_unusable (hq : call.message.question = question :: rest)
    (h : exchangeUsable c now call question state = none) :
    (exchange c now call transport state).1.cached = false := by
  by_cases hstrat : strategyRejected question call.options
  · simp [exchange, hq, hstrat]
  · obtain ⟨disableCache, state', _, hmiss⟩ :=
      exchange_of_unusable c transport hq (by simpa using hstrat) h
    rw [hmiss]

lemma exchangeMiss_ok {message : Msg} {disableCache : Bool} {transport : Msg → TransportResult}
    {result : Msg} (h : (exchangeMiss c now call question message disableCache transport
      state).1 = .ok result) :
    ∃ response, exchangeToTransport transport message = some response ∧
    isRejected call.responseChecker response = false ∧
    result = adaptEdns0 message
    ((applyResponseOptions question response call.options).1.withId message.hdr.id) := by
  unfold exchangeMiss at h
  split_ifs at h
  split at h
  · cases h
  · rename_i response hresp
    split_ifs at h with hrejected
    all_goals exact ⟨response, hresp, by simpa using hrejected, (Except.ok.inj h).symm⟩

lemma exchange_ok {transport : Msg → TransportResult} {result : Msg}
    (hq : call.message.question = question :: rest)
    (hstrat : strategyRejected question call.options = false)
    (h : (exchange c now call transport state).1.result = .ok result) :
    (∃ response, exchangeUsable c now call question state = some response ∧
      result = response.withId call.message.hdr.id) ∨
    ∃ response, exchangeToTransport transport
    (prepareExchangeMessage c call.message call.options) = some response ∧
    isRejected call.responseChecker response = false ∧
    result = adaptEdns0 (prepareExchangeMessage c call.message call.options)
    ((applyResponseOptions question response call.options).1.withId call.message.hdr.id) := by
  rcases hus : exchangeUsable c now call question state with _ | response
  · right
    obtain ⟨disableCache, state', _, hmiss⟩ := exchange_of_unusable c transport hq hstrat hus
    rw [hmiss] at h
    rw [← prepareExchangeMessage_hdr c call.message call.options]
    exact exchangeMiss_ok c h
  · left
    rw [exchange_of_usable c transport hq hus] at h
    exact ⟨response, rfl, (Except.ok.inj h).symm⟩

/-! ### Lookups -/

def lookupUsable (now : ℕ) (lookup : LookupCall) (qType : ℕ) (state : ClientState) : Option Msg :=
  if c.disableCache || lookup.options.disableCache then none
  else usableResponse c now (c.cacheKey lookup.transportTag (lookup.question qType))
    lookup.options state

variable (options : DNSQueryOptions)

@[simp] lemma lookupOptions_disableCache :
    (lookupOptions options).disableCache = options.disableCache := by
  unfold lookupOptions
  split <;> rfl

@[simp] lemma lookupOptions_disableOptimisticCache :
    (lookupOptions options).disableOptimisticCache = options.disableOptimisticCache := by
  unfold lookupOptions
  split <;> rfl

lemma usableResponse_congr {options options' : DNSQueryOptions}
    (h : options.disableOptimisticCache = options'.disableOptimisticCache) :
    usableResponse c now key options state = usableResponse c now key options' state := by
  simp [usableResponse, h]

lemma questionCache_lookup (now : ℕ) (lookup : LookupCall) (qType : ℕ) (state : ClientState) :
    (questionCache c now (lookup.call qType) (lookup.question qType) state).1 =
    (usableResponse c now (c.cacheKey lookup.transportTag (lookup.question qType))
        lookup.options state).map responseAddresses := by
  rw [questionCache_fst]
  congr 1
  exact usableResponse_congr c (lookupOptions_disableOptimisticCache _)

lemma lookupToExchange_of_usable {lookup : LookupCall} {qType : ℕ}
    (h : lookupUsable c now lookup qType state = some response) :
    (lookupToExchange c now lookup qType transport state).1 =
    ⟨true, responseAddresses response⟩ := by
  unfold lookupUsable at h
  split_ifs at h with hdis
  have hca := questionCache_lookup c now lookup qType state
  rw [h] at hca
  have hopts : (c.disableCache || (lookup.call qType).options.disableCache) = false := by
    simpa [call] using hdis
  simp [lookupToExchange, hopts, hca]

section
variable {lookup : LookupCall} {qType : ℕ} (h : lookupUsable c now lookup qType state = none)
include h

lemma lookupToExchange_of_unusable : ∃ state', state'.rdrc = state.rdrc ∧
    exchangeUsable c now (lookup.call qType) (lookup.question qType) state' = none ∧
    (lookupToExchange c now lookup qType transport state).1 =
    ⟨(exchange c now (lookup.call qType) transport state').1.cached,
          (exchange c now (lookup.call qType) transport state').1.result.bind
            responseAddresses⟩ := by
  by_cases hdis : (c.disableCache || (lookup.call qType).options.disableCache)
  · have hdisables : exchangeDisablesCache c
        (prepareExchangeMessage c (lookup.call qType).message (lookup.call qType).options)
        (lookup.call qType).options := by
      rw [exchangeDisablesCache, Bool.or_assoc, hdis, Bool.or_true]
    refine ⟨state, rfl, by simp [exchangeUsable, hdisables], ?_⟩
    simp [lookupToExchange, hdis]
  · have hunusable : usableResponse c now (c.cacheKey lookup.transportTag (lookup.question qType))
        lookup.options state = none := by
      have hopts : ¬ (c.disableCache || lookup.options.disableCache) := by
        simpa [call] using hdis
      rwa [lookupUsable, if_neg hopts] at h
    have hnone : (questionCache c now (lookup.call qType) (lookup.question qType) state).1 =
        none := by
      rw [questionCache_lookup, hunusable]
      rfl
    have hst := questionCache_snd_of_none c hnone
    refine ⟨(questionCache c now (lookup.call qType) (lookup.question qType) state).2, ?_, ?_, ?_⟩
    · rw [hst, loadResponse_rdrc]
    · have hagain : usableResponse c now
          (c.cacheKey (lookup.call qType).transportTag (lookup.question qType))
          (lookup.call qType).options
          (questionCache c now (lookup.call qType) (lookup.question qType) state).2 = none := by
        rw [hst, usableResponse_again]
        exact (usableResponse_congr c (lookupOptions_disableOptimisticCache _)).trans hunusable
      simp [exchangeUsable, hagain]
    · simp [lookupToExchange, hdis, hnone]

lemma lookupToExchange_cached_of_unusable :
    (lookupToExchange c now lookup qType transport state).1.cached = false := by
  obtain ⟨state', _, hexch, hlookup⟩ := lookupToExchange_of_unusable c transport h
  rw [hlookup]
  have hq : (lookup.call qType).message.question = [lookup.question qType] := rfl
  exact exchange_cached_of_unusable c transport hq hexch

end

lemma strategyRejected_of_mem_lookupTypes {lookup : LookupCall} {qType : ℕ}
    (h : qType ∈ lookupTypes lookup.options) :
    strategyRejected (lookup.question qType) (lookup.call qType).options = false := by
  have hopts : (lookup.call qType).options = lookupOptions lookup.options := rfl
  have hqtype : (lookup.question qType).qtype = qType := rfl
  unfold lookupTypes at h
  unfold strategyRejected
  rw [hopts, hqtype]
  cases hstrat : (lookupOptions lookup.options).strategy <;> rw [hstrat] at h <;>
    simp only [List.mem_cons, List.not_mem_nil, or_false] at h
  · simp
  · simp
  · simp
  · simp [h, dnsTypeA, dnsTypeAAAA]
  · simp [h, dnsTypeA, dnsTypeAAAA]

def ClientConfig.subnetInForce (options : DNSQueryOptions) : Option IPPrefix :=
  options.clientSubnet.or c.clientSubnet

def LookupCall.exchangeCall (lookup : LookupCall) (qType : ℕ) (strategy : DomainStrategy) : Call :=
  { lookup.call qType with options := { lookup.options with strategy := strategy } }

lemma isSimpleRequest_exchangeCall (lookup : LookupCall) (qType : ℕ) (strategy : DomainStrategy) :
    isSimpleRequest (prepareExchangeMessage c (lookup.exchangeCall qType strategy).message
          (lookup.exchangeCall qType strategy).options)
    (lookup.exchangeCall qType strategy).options =
    (c.subnetInForce lookup.options).isNone := by
  rcases hopts : lookup.options.clientSubnet with _ | optionSubnet <;>
    rcases hclient : c.clientSubnet with _ | clientSubnet <;>
    simp [exchangeCall, call, prepareExchangeMessage, isSimpleRequest,
      ClientConfig.subnetInForce, hopts, hclient, setClientSubnet, findSubnet, isPlainEdns0]

lemma exchangeUsable_exchangeCall (now : ℕ) (lookup : LookupCall) (qType : ℕ)
    (strategy : DomainStrategy) (state : ClientState) :
    exchangeUsable c now (lookup.exchangeCall qType strategy) (lookup.question qType) state =
    if strategyRejected (lookup.question qType) (lookup.exchangeCall qType strategy).options ∨
    (c.subnetInForce lookup.options).isSome then none
    else lookupUsable c now lookup qType state := by
  have hsimple := isSimpleRequest_exchangeCall c lookup qType strategy
  have hus : usableResponse c now
      (c.cacheKey (lookup.exchangeCall qType strategy).transportTag (lookup.question qType))
      (lookup.exchangeCall qType strategy).options state =
      usableResponse c now (c.cacheKey lookup.transportTag (lookup.question qType))
        lookup.options state :=
    usableResponse_congr c rfl
  have hdisable : (lookup.exchangeCall qType strategy).options.disableCache =
      lookup.options.disableCache := rfl
  rw [exchangeUsable, exchangeDisablesCache, hsimple, hus, hdisable, lookupUsable]
  cases hsubnet : c.subnetInForce lookup.options <;> simp

/-! ### Agreement -/

def CacheAgreement (now : ℕ) (lookup : LookupCall) (qType : ℕ) (strategy : DomainStrategy)
    (transport : Msg → TransportResult) (state : ClientState) : Prop :=
  let looked := (lookupToExchange c now lookup qType transport state).1
  let exchanged := (exchange c now (lookup.exchangeCall qType strategy) transport state).1
  looked.cached → exchanged.cached ∧ exchanged.result.bind responseAddresses = looked.result

lemma responseAddresses_withId (response : Msg) (id : ℕ) :
    responseAddresses (response.withId id) = responseAddresses response := rfl

/-- They agree exactly if the lookup finds nothing, or no client subnet is in force and the strategy
does not reject. -/
theorem cacheAgreement_iff (now : ℕ) (lookup : LookupCall) (qType : ℕ)
    (strategy : DomainStrategy) (transport : Msg → TransportResult) (state : ClientState) :
    CacheAgreement c now lookup qType strategy transport state ↔
      (lookupUsable c now lookup qType state = none ∨ c.subnetInForce lookup.options = none ∧
          strategyRejected (lookup.question qType)
            (lookup.exchangeCall qType strategy).options = false) := by
  have hq : (lookup.exchangeCall qType strategy).message.question = [lookup.question qType] := rfl
  have hexch := exchangeUsable_exchangeCall c now lookup qType strategy state
  rcases hus : lookupUsable c now lookup qType state with _ | response
  · have hca := lookupToExchange_cached_of_unusable c transport hus
    simp [CacheAgreement, hca]
  have hlooked := lookupToExchange_of_usable c transport hus
  rw [hus] at hexch
  by_cases hrefused : strategyRejected (lookup.question qType)
      (lookup.exchangeCall qType strategy).options = true ∨
      (c.subnetInForce lookup.options).isSome
  · -- Here `exchange` goes to the transport although the lookup does not.
    rw [if_pos hrefused] at hexch
    have hca := exchange_cached_of_unusable c transport hq hexch
    rcases hrefused with hrefused | hrefused
    · simp [CacheAgreement, hlooked, hca, hrefused]
    · have hsubnet : c.subnetInForce lookup.options ≠ none := by
        simpa [Option.isSome_iff_ne_none] using hrefused
      simp [CacheAgreement, hlooked, hca, hsubnet]
  · rw [if_neg hrefused] at hexch
    have hexchanged := exchange_of_usable c transport hq hexch
    obtain ⟨hstrat, hsubnet⟩ := not_or.1 hrefused
    have haddrs : (Except.ok (response.withId
        (lookup.exchangeCall qType strategy).message.hdr.id) : Except DNSError Msg).bind
          responseAddresses = responseAddresses response := responseAddresses_withId ..
    simp only [Option.not_isSome_iff_eq_none] at hsubnet
    simp only [CacheAgreement, hlooked, hexchanged, haddrs, hsubnet]
    simp [hstrat]

/-- A lookup with a client subnet answers from the cache. -/
theorem lookup_cached_despite_clientSubnet :
    let question : Question := ⟨"a.", dnsTypeA, dnsClassINET⟩
    let answer : Msg :=
      ⟨{ response := true }, [question], [⟨⟨"a.", dnsTypeA, dnsClassINET, 60⟩, .a [1, 2, 3, 4]⟩],
        [], []⟩
    let transport : Msg → TransportResult := fun _ => .ok answer
    let config : ClientConfig := {}
    let first : Call := ⟨"dns", ⟨{}, [question], [], [], []⟩, {}, none, none⟩
    let state := (exchange config 0 first transport .initial).2
    let request : LookupCall :=
      { transportTag := "dns"
        domain := "a"
        options := { strategy := .ipv4Only, clientSubnet := some ⟨.v4 0x0a000000, 8⟩ } }
    ((lookup config 0 request transport state).1.map fun answer => answer.2.cached) = [true] ∧
      (exchange config 0 (request.exchangeCall dnsTypeA .ipv4Only) transport state).1.cached =
        false ∧
      ¬ CacheAgreement config 0 request dnsTypeA .ipv4Only transport state := by
  intro question answer transport config first state request
  have hlooked : (lookupToExchange config 0 request dnsTypeA transport state).1.cached = true := by
    decide
  have hexchanged : (exchange config 0 (request.exchangeCall dnsTypeA .ipv4Only) transport
      state).1.cached = false := by
    decide
  refine ⟨by decide, hexchanged, fun hagree => ?_⟩
  exact absurd (hagree hlooked).1 (by rw [hexchanged]; decide)

end SingBox
