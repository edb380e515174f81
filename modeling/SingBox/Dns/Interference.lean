import SingBox.Dns.ClientRun

/-!
# Interference of queries through the cache

A response is stored as the options of one query have made it, under a key without the options.
-/

namespace SingBox

/-! ### Comparing with a cache that is empty -/

def ClientState.withoutCache (state : ClientState) : ClientState := { state with cache := .empty }

variable (c : ClientConfig) (answerOf : CacheKey → Msg) (view : CacheKey → Msg → Msg)

def Deterministic (transportTag : String) (transport : Msg → TransportResult) : Prop :=
  ∀ message question rest, message.question = question :: rest →
    transport message = .ok (answerOf (c.cacheKey transportTag question))

/-- The query filters hints as all queries with its key do. -/
def SameFilter (refresh : Refresh) : Prop :=
  ∀ response, filterHints refresh.question refresh.options response =
    view (c.cacheKey refresh.transportTag refresh.question) response

def Call.Passing (state : ClientState) (call : Call) (question : Question) : Prop :=
  call.contextTransport ≠ some call.transportTag ∧ (call.responseChecker.isSome → c.hasRDRC →
      state.rdrc.contains (rdrcKey call.transportTag question) = false) ∧
    isRejected call.responseChecker
      (stripDNSPadding (answerOf (c.cacheKey call.transportTag question))) = false

def ClientStep.Passing (state : ClientState) : ClientStep → Prop
  | .exchange _ call _ =>
    ∀ question rest, call.message.question = question :: rest →
      call.Passing c answerOf state question
  | .lookup _ request qType _ =>
    qType ∈ lookupTypes request.options ∧
      (request.call qType).Passing c answerOf state (request.question qType)
  | _ => True

def ClientStep.NonInterfering (state : ClientState) (step : ClientStep) : Prop :=
  step.Meets c (SameFilter c view) (Deterministic c answerOf) state ∧ step.Passing c answerOf state

/-- A cached answer is that on a miss, up to times to live. -/
def ClientStep.AsOnMiss (state : ClientState) : ClientStep → Prop
  | .exchange now call transport =>
    (SingBox.exchange c now call transport state).1.cached →
      (SingBox.exchange c now call transport state).1.result.map Msg.withoutTTL =
        (SingBox.exchange c now call transport state.withoutCache).1.result.map Msg.withoutTTL
  | .lookup now request qType transport =>
    (lookupToExchange c now request qType transport state).1.cached →
      (lookupToExchange c now request qType transport state).1.result =
        (lookupToExchange c now request qType transport state.withoutCache).1.result
  | _ => True

def AskingSameFilter (refresh : Refresh) : Prop :=
  (∃ rest, refresh.message.question = refresh.question :: rest) ∧ SameFilter c view refresh

def IsAnswer (key : CacheKey) (response : Msg) : Prop :=
  response.withoutTTL = (view key (stripDNSPadding (answerOf key))).withoutTTL

variable {c answerOf view}

lemma prepareExchangeMessage_question (message : Msg) (options : DNSQueryOptions) :
    (prepareExchangeMessage c message options).question = message.question := by
  unfold prepareExchangeMessage
  split <;> rfl

lemma Deterministic.exchangeToTransport {transportTag : String}
    {transport : Msg → TransportResult} (h : Deterministic c answerOf transportTag transport)
    {message : Msg} {question : Question} {rest : List Question}
    (hq : message.question = question :: rest) :
    exchangeToTransport transport message =
    some (stripDNSPadding (answerOf (c.cacheKey transportTag question))) := by
  rw [SingBox.exchangeToTransport, h message question rest hq]

lemma storeRule_isAnswer
    (hpacked : ∀ response rawMessage response', c.pack response = some rawMessage →
      c.unpack rawMessage = some response' → response'.withoutTTL = response.withoutTTL) :
    StoreRule c (IsAnswer answerOf view) (AskingSameFilter c view) (Deterministic c answerOf) where
  packed key response rawMessage response' hans hpack hunpack :=
    (hpacked response rawMessage response' hpack hunpack).trans hans
  stored refresh transport response hquery htr hresp _ _ := by
    obtain ⟨⟨rest, hq⟩, hfilter⟩ := hquery
    rw [htr.exchangeToTransport hq] at hresp
    obtain rfl := Option.some.inj hresp
    rw [IsAnswer, withoutTTL_applyResponseOptions, hfilter]

lemma ClientStep.Meets.asking {state : ClientState} {step : ClientStep}
    (h : step.Meets c (SameFilter c view) (Deterministic c answerOf) state) :
    step.Meets c (AskingSameFilter c view) (Deterministic c answerOf) state := by
  cases step with
  | exchange now call transport =>
    refine ⟨h.1, fun question rest hq hdis => ⟨⟨rest, ?_⟩, ?_⟩⟩
    · exact (prepareExchangeMessage_question _ _).trans hq
    · exact h.2 question rest hq hdis
  | lookup now request qType transport =>
    refine ⟨h.1, fun hdis => ⟨⟨[], ?_⟩, h.2 hdis⟩⟩
    exact prepareExchangeMessage_question _ _
  | refreshed now index transport => exact h
  | flush key | evict key | forgetRejected key | clearCache => trivial

/-! ### Answers -/

section Answers
variable {state : ClientState} {now : ℕ} {transport : Msg → TransportResult} {Q : Refresh → Prop}

lemma usableResponse_withoutCache (key : CacheKey) (options : DNSQueryOptions) :
    usableResponse c now key options state.withoutCache = none := by
  have hcache : state.withoutCache.cache key = none := rfl
  simp [usableResponse, loadResponse_of_cache_none c hcache]

variable {response : Msg} {call : Call} {question : Question}

lemma usableResponse_isAnswer {key : CacheKey} {options : DNSQueryOptions}
    (h : ClientInvariant c (IsAnswer answerOf view) Q state)
    (hus : usableResponse c now key options state = some response) :
    IsAnswer answerOf view key response := by
  obtain ⟨stored, hans, rfl | ⟨timeToLive, rfl⟩⟩ := h.usableResponse hus
  · exact hans
  · exact (withoutTTL_normalizeTTL stored timeToLive).trans hans

lemma exchangeMiss_of_passing {message : Msg}
    {disableCache : Bool} (hloop : call.contextTransport ≠ some call.transportTag)
    (hrdrc : call.responseChecker.isSome → c.hasRDRC →
      state.rdrc.contains (rdrcKey call.transportTag question) = false)
    (hresp : exchangeToTransport transport message = some response)
    (hpassed : isRejected call.responseChecker response = false) :
    (exchangeMiss c now call question message disableCache transport state).1 =
    .ok (adaptEdns0 message
        ((applyResponseOptions question response call.options).1.withId message.hdr.id)) := by
  have hca : ¬ (!disableCache && call.responseChecker.isSome && c.hasRDRC &&
      state.rdrc.contains (rdrcKey call.transportTag question)) := by
    intro h
    simp only [Bool.and_eq_true] at h
    obtain ⟨⟨⟨_, hchecker⟩, hstore⟩, hcont⟩ := h
    rw [hrdrc hchecker hstore] at hcont
    cases hcont
  unfold exchangeMiss
  rw [if_neg hloop, if_neg hca, hresp]
  simp [hpassed]

lemma exchange_withoutCache {rest : List Question}
    (hopt : ∀ key, (answerOf key).isEdns0 = none) (hq : call.message.question = question :: rest)
    (hstrat : strategyRejected question call.options = false)
    (hpassing : call.Passing c answerOf state question)
    (htr : Deterministic c answerOf call.transportTag transport)
    {state' : ClientState} (hrdrc : state'.rdrc = state.rdrc)
    (hunusable : exchangeUsable c now call question state' = none) :
    (exchange c now call transport state').1.result = .ok ((applyResponseOptions question
        (stripDNSPadding (answerOf (c.cacheKey call.transportTag question)))
        call.options).1.withId call.message.hdr.id) := by
  obtain ⟨hloop, hrejected, hpassed⟩ := hpassing
  obtain ⟨disableCache, state'', hrdrc', hmiss⟩ :=
    exchange_of_unusable c transport hq hstrat hunusable
  rw [← hrdrc, ← hrdrc'] at hrejected
  have hresp := htr.exchangeToTransport
    ((prepareExchangeMessage_question (c := c) call.message call.options).trans hq)
  rw [hmiss, exchangeMiss_of_passing hloop hrejected hresp hpassed,
    prepareExchangeMessage_hdr, adaptEdns0_of_isEdns0_none]
  exact isEdns0_applyResponseOptions question call.options (isEdns0_stripDNSPadding (hopt _))

lemma IsAnswer.withoutTTL_eq {refresh : Refresh}
    (h : IsAnswer answerOf view (c.cacheKey refresh.transportTag refresh.question) response)
    (hfilter : SameFilter c view refresh) :
    response.withoutTTL = (applyResponseOptions refresh.question
      (stripDNSPadding (answerOf (c.cacheKey refresh.transportTag refresh.question)))
      refresh.options).1.withoutTTL := by
  rw [withoutTTL_applyResponseOptions, hfilter]
  exact h

lemma exchange_asOnMiss (h : ClientInvariant c (IsAnswer answerOf view) Q state)
    (hopt : ∀ key, (answerOf key).isEdns0 = none) (hcall : call.Meets c (SameFilter c view))
    (hpassing : ∀ question rest, call.message.question = question :: rest →
      call.Passing c answerOf state question)
    (htr : Deterministic c answerOf call.transportTag transport)
    (hca : (exchange c now call transport state).1.cached) :
    (exchange c now call transport state).1.result.map Msg.withoutTTL =
    (exchange c now call transport state.withoutCache).1.result.map Msg.withoutTTL := by
  rcases hq : call.message.question with _ | ⟨question, rest⟩
  · simp [exchange, hq] at hca
  rcases hus : exchangeUsable c now call question state with _ | response
  · rw [exchange_cached_of_unusable c transport hq hus] at hca
    cases hca
  have hunusable : exchangeUsable c now call question state.withoutCache = none := by
    simp [exchangeUsable, usableResponse_withoutCache]
  rw [exchange_of_usable c transport hq hus]
  unfold exchangeUsable at hus
  split_ifs at hus with hstrat hdis
  have hrdrc : state.withoutCache.rdrc = state.rdrc := rfl
  rw [exchange_withoutCache hopt hq (by simpa using hstrat)
    (hpassing question rest hq) htr hrdrc hunusable]
  -- The identifier is that of the request on both sides, so the messages without it decide.
  have hfilter := hcall question rest hq (by simpa using hdis)
  have hsame := (usableResponse_isAnswer h hus).withoutTTL_eq hfilter
  exact congrArg (fun message : Msg => Except.ok (message.withId call.message.hdr.id)) hsame

lemma responseAddresses_congr {response' : Msg} (h : response.withoutTTL = response'.withoutTTL) :
    responseAddresses response = responseAddresses response' := by
  have hrcode : response.hdr.rcode = response'.hdr.rcode := congrArg (·.hdr.rcode) h
  have haddrs : messageToAddresses response = messageToAddresses response' := by
    rw [← messageToAddresses_normalizeTTL response 0, ← messageToAddresses_normalizeTTL response' 0]
    exact congrArg messageToAddresses h
  rw [responseAddresses, responseAddresses, hrcode, haddrs]

lemma lookupToExchange_asOnMiss {request : LookupCall} {qType : ℕ}
    (h : ClientInvariant c (IsAnswer answerOf view) Q state)
    (hopt : ∀ key, (answerOf key).isEdns0 = none)
    (hrequest : request.Meets c (SameFilter c view) qType)
    (htype : qType ∈ lookupTypes request.options)
    (hpassing : (request.call qType).Passing c answerOf state (request.question qType))
    (htr : Deterministic c answerOf request.transportTag transport)
    (hca : (lookupToExchange c now request qType transport state).1.cached) :
    (lookupToExchange c now request qType transport state).1.result =
    (lookupToExchange c now request qType transport state.withoutCache).1.result := by
  rcases hus : lookupUsable c now request qType state with _ | response
  · rw [lookupToExchange_cached_of_unusable c transport hus] at hca
    cases hca
  have hunusable : lookupUsable c now request qType state.withoutCache = none := by
    simp [lookupUsable, usableResponse_withoutCache]
  obtain ⟨state', hrdrc, hexch, hmiss⟩ := lookupToExchange_of_unusable c transport hunusable
  have hq : (request.call qType).message.question = [request.question qType] := rfl
  rw [lookupToExchange_of_usable c transport hus, hmiss,
    exchange_withoutCache hopt hq (strategyRejected_of_mem_lookupTypes htype) hpassing
      htr hrdrc hexch]
  unfold lookupUsable at hus
  split_ifs at hus with hdis
  have hfilter := hrequest (by simpa using hdis)
  have hsame := (usableResponse_isAnswer h hus).withoutTTL_eq hfilter
  exact (responseAddresses_congr hsame).trans (responseAddresses_withId _ _).symm

end Answers

/-- If queries with one key filter hints alike and transports always give the same answers, without
`OPT` records, the cached answer of a call whose own miss would not fail is that of the miss. The
calls before it may have been rejected by their checkers or have failed. -/
theorem asOnMiss_of_run
    (hpacked : ∀ response rawMessage response', c.pack response = some rawMessage →
      c.unpack rawMessage = some response' → response'.withoutTTL = response.withoutTTL)
    (hopt : ∀ key, (answerOf key).isEdns0 = none) {state : ClientState}
    (hrun : Run (clientStep c) (fun state step =>
      step.Meets c (SameFilter c view) (Deterministic c answerOf) state) .initial state)
    {step : ClientStep} (hstep : step.NonInterfering c answerOf view state) :
    step.AsOnMiss c state := by
  have hinv := clientInvariant_of_run (storeRule_isAnswer hpacked)
    (fun state step hstep => hstep.asking) hrun
  obtain ⟨hmeets, hpassing⟩ := hstep
  cases step with
  | exchange now call transport =>
    intro hca
    exact exchange_asOnMiss hinv hopt hmeets.2 hpassing hmeets.1 hca
  | lookup now request qType transport =>
    intro hca
    exact lookupToExchange_asOnMiss hinv hopt hmeets.2 hpassing.1 hpassing.2 hmeets.1 hca
  | refreshed now index transport | flush key | evict key | forgetRejected key | clearCache =>
    trivial

theorem asOnMiss_of_run_both_hints : let question : Question := ⟨"a.", dnsTypeHTTPS, dnsClassINET⟩
    let answer : Msg := ⟨{ response := true }, [question], [⟨⟨"a.", dnsTypeHTTPS, dnsClassINET, 60⟩,
          .https 1 "." [.ipv4Hint [[1, 2, 3, 4]], .ipv6Hint [[]]]⟩], [], []⟩
    let transport : Msg → TransportResult := fun _ => .ok answer
    let first : Call := ⟨"dns", ⟨{}, [question], [], [], []⟩, {}, none, none⟩
    let second : Call := { first with options := { rewriteTTL := some 5 } }
    let rejected : Call := { first with responseChecker := some fun _ => false }
    let step : ClientStep := .exchange 0 second transport
    let state := clientStep {} (clientStep {} .initial (.exchange 0 rejected transport))
      (.exchange 0 first transport)
    (exchange {} 0 rejected transport .initial).1.result.toOption = none ∧
      (exchange {} 0 second transport state).1.cached = true ∧ step.AsOnMiss {} state := by
  intro question answer transport first second rejected step state
  have htr : Deterministic {} (fun _ => answer) "dns" transport :=
    fun message question rest _ => rfl
  have hmeets : ∀ call : Call, call.transportTag = "dns" → call.options.strategy = .asIS →
      ∀ state, (ClientStep.exchange 0 call transport).Meets {}
        (SameFilter {} fun _ response => response) (Deterministic {} fun _ => answer) state := by
    intro call htag hstrat state
    refine ⟨htag ▸ htr, fun question rest _ _ response => ?_⟩
    simp [filterHints, Call.refresh, hstrat, DomainStrategy.filtersHints]
  have hrun : Run (clientStep {}) (fun state step => step.Meets {}
      (SameFilter {} fun _ response => response) (Deterministic {} fun _ => answer) state)
      .initial state :=
    (Run.start.step (hmeets rejected rfl rfl .initial)).step (hmeets first rfl rfl _)
  have hpassing : step.Passing {} (fun _ => answer) state := by
    intro question rest _
    exact ⟨by simp [second, first], by simp [second, first], rfl⟩
  refine ⟨by decide, by decide, asOnMiss_of_run ?_ (fun _ => by decide) hrun
    ⟨hmeets second rfl rfl state, hpassing⟩⟩
  intro response rawMessage response' hpack _
  cases hpack

/-- A query with `ipv4Only` leaves an answer without IPv6 hints; one gets an `OPT` record. -/
theorem cached_answer_interferes : let question : Question := ⟨"a.", dnsTypeHTTPS, dnsClassINET⟩
    let answer (extra : List RR) : Msg := ⟨{ response := true }, [question],
        [⟨⟨"a.", dnsTypeHTTPS, dnsClassINET, 60⟩,
          .https 1 "." [.ipv4Hint [[1, 2, 3, 4]], .ipv6Hint [[]]]⟩], [], extra⟩
    let opt : RR := ⟨⟨".", dnsTypeOPT, 1232, 0⟩, .opt []⟩
    let transport (extra : List RR) : Msg → TransportResult := fun _ => .ok (answer extra)
    let call (strategy : DomainStrategy) : Call :=
      ⟨"dns", ⟨{}, [question], [], [], []⟩, { strategy := strategy }, none, none⟩
    let received (state : ClientState) (extra : List RR) : Option Msg :=
      (exchange {} 0 (call .asIS) (transport extra) state).1.result.toOption.map .withoutTTL
    let filtered := clientStep {} .initial (.exchange 0 (call .ipv4Only) (transport []))
    let plain := clientStep {} .initial (.exchange 0 (call .asIS) (transport [opt]))
    received filtered [] ≠ received filtered.withoutCache [] ∧
      received plain [opt] ≠ received plain.withoutCache [opt] := by
  decide

end SingBox
