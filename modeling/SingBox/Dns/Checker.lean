import SingBox.Dns.ClientRun

/-!
# Response checkers

A call may bring a checker that decides whether a response is acceptable (the router passes the
address limit of a rule this way). A checker sees what the transport answers, before the options
are applied, and never what the cache answers. So a cached response has passed the checker of the
call that stored it, which is that of the present call only if all calls with one key bring the
same checker.
-/

namespace SingBox
variable (c : ClientConfig)

/-! ### Checkers that see through the client's changes -/

/-- The verdict does not depend on what the client changes before it stores or returns a response:
the TTL of the records, the id, the `OPT` record and the address hints. -/
structure Robust (question : Question) (options : DNSQueryOptions) (check : ResponseChecker) :
    Prop where
  ttl : ∀ response timeToLive, check (normalizeTTL response timeToLive) = check response
  id : ∀ (response : Msg) id, check (response.withId id) = check response
  edns0 : ∀ request response, check (adaptEdns0 request response) = check response
  hints : ∀ response, check (filterHints question options response) = check response

variable {check : ResponseChecker} {question : Question}

lemma Robust.applyResponseOptions {options : DNSQueryOptions}
    (h : Robust question options check) (response : Msg) :
    check (applyResponseOptions question response options).1 = check response := by
  unfold SingBox.applyResponseOptions
  rw [h.ttl, h.hints]

lemma robust_of_addresses (hq : question.qtype ≠ dnsTypeHTTPS)
    (options : DNSQueryOptions) (f : List Addr → Bool) :
    Robust question options fun response => f (messageToAddresses response) where
  ttl response timeToLive := by rw [messageToAddresses_normalizeTTL]
  id response id := rfl
  edns0 request response := by rw [messageToAddresses_adaptEdns0]
  hints response := by simp [filterHints, hq]

/-! ### One checker, or none, for each key -/

variable (χ : CacheKey → Option ResponseChecker)

/-- A query that uses the cache brings what belongs to its key: no checker, or a robust one. -/
def UniformQuery (refresh : Refresh) : Prop :=
  refresh.responseChecker = χ (c.cacheKey refresh.transportTag refresh.question) ∧
    ∀ check, χ (c.cacheKey refresh.transportTag refresh.question) = some check →
      Robust refresh.question refresh.options check

/-- The checker of the key, if it has one, accepts the response. -/
def PassedBy (key : CacheKey) (response : Msg) : Prop :=
  ∀ check, χ key = some check → check response

/-- The strategy does not answer the question, and the checker is robust. -/
def ClientStep.Checked : ClientStep → Prop
  | .exchange _ call _ =>
    ∃ question rest, call.message.question = question :: rest ∧
      strategyRejected question call.options = false ∧
      ∀ check, call.responseChecker = some check → Robust question call.options check
  | .lookup _ request qType _ =>
    qType ∈ lookupTypes request.options ∧
      ∀ check, request.responseChecker = some check →
        Robust (request.question qType) (lookupOptions request.options) check
  | _ => True

/-- If the step uses the cache, it brings the checker of its key. -/
def ClientStep.Uniform (state : ClientState) (step : ClientStep) : Prop :=
  step.Meets c (UniformQuery c χ) (fun _ _ => True) state

/-- What the step returns without an error has passed its checker. -/
def ClientStep.Accepted (state : ClientState) : ClientStep → Prop
  | .exchange now call transport =>
    ∀ check response, call.responseChecker = some check →
      (SingBox.exchange c now call transport state).1.result = .ok response →
      check response
  | .lookup now request qType transport =>
    ∀ check addresses, request.responseChecker = some check →
      (lookupToExchange c now request qType transport state).1.result = .ok addresses →
      ∃ response, responseAddresses response = .ok addresses ∧ check response
  | _ => True

variable {c χ}

/-! ### What is stored has passed the checker of its key -/

lemma storeRule_checker
    (hpacked : ∀ key check response rawMessage response', χ key = some check →
      c.pack response = some rawMessage → c.unpack rawMessage = some response' →
      check response' = check response) :
    StoreRule c (PassedBy χ) (UniformQuery c χ) (fun _ _ => True) where
  packed key response rawMessage response' hacc hpack hunpack := by
    intro check hcheck
    rw [hpacked key check response rawMessage response' hcheck hpack hunpack]
    exact hacc check hcheck
  stored refresh transport response hquery _ _ hpassed hrcode := by
    obtain ⟨hchecker, hrobust⟩ := hquery
    intro check hcheck
    rw [(hrobust check hcheck).applyResponseOptions]
    simpa [isRejected, hchecker, hcheck, hrcode] using hpassed

lemma check_of_not_isRejected {response : Msg}
    (h : isRejected (some check) response = false) : check response := by
  unfold isRejected at h
  split_ifs at h
  simpa using h

section Accepted
variable {state : ClientState} {Q : Refresh → Prop} {now : ℕ} {transport : Msg → TransportResult}
section
variable (h : ClientInvariant c (PassedBy χ) Q state)
include h

lemma usableResponse_accepted {key : CacheKey} {options options' : DNSQueryOptions} {response : Msg}
    (hkey : χ key = some check) (hrobust : Robust question options' check)
    (hus : usableResponse c now key options state = some response) : check response := by
  obtain ⟨stored, hacc, rfl | ⟨timeToLive, rfl⟩⟩ := h.usableResponse hus
  · exact hacc check hkey
  · rw [hrobust.ttl]
    exact hacc check hkey

lemma exchange_accepted {call : Call} {rest : List Question} {result : Msg}
    (hq : call.message.question = question :: rest)
    (hstrat : strategyRejected question call.options = false)
    (hcall : call.Meets c (UniformQuery c χ)) (hcheck : call.responseChecker = some check)
    (hrobust : Robust question call.options check)
    (hres : (exchange c now call transport state).1.result = .ok result) :
    check result := by
  rcases exchange_ok c hq hstrat hres with
    ⟨response, hus, rfl⟩ | ⟨response, _, hpassed, rfl⟩
  · -- From the cache: the checker is that of the key.
    rw [hrobust.id]
    unfold exchangeUsable at hus
    split_ifs at hus with _ hdis
    have hchecker := (hcall question rest hq (by simpa using hdis)).1
    exact usableResponse_accepted h (hchecker.symm.trans hcheck) hrobust hus
  · -- From the transport: the checker has been run.
    rw [hrobust.edns0, hrobust.id, hrobust.applyResponseOptions]
    rw [hcheck] at hpassed
    exact check_of_not_isRejected hpassed

lemma lookupToExchange_accepted {lookup : LookupCall} {qType : ℕ} {addresses : List Addr}
    (htype : qType ∈ lookupTypes lookup.options) (hlookup : lookup.Meets c (UniformQuery c χ) qType)
    (hcheck : lookup.responseChecker = some check)
    (hrobust : Robust (lookup.question qType) (lookupOptions lookup.options) check)
    (hres : (lookupToExchange c now lookup qType transport state).1.result = .ok addresses) :
    ∃ response, responseAddresses response = .ok addresses ∧ check response := by
  rcases hus : lookupUsable c now lookup qType state with _ | response
  · obtain ⟨state', _, hunusable, hans⟩ := lookupToExchange_of_unusable c transport hus
    rw [hans] at hres
    have hq : (lookup.call qType).message.question = [lookup.question qType] := rfl
    have hstrat := strategyRejected_of_mem_lookupTypes htype
    rcases hexch : (exchange c now (lookup.call qType) transport state').1.result with
      error | response
    · rw [hexch] at hres
      cases hres
    · rw [hexch] at hres
      refine ⟨response, hres, ?_⟩
      rcases exchange_ok c hq hstrat hexch with
        ⟨cached, hca, _⟩ | ⟨answer, _, hpassed, rfl⟩
      · rw [hunusable] at hca
        cases hca
      · rw [hrobust.edns0, hrobust.id]
        exact (hrobust.applyResponseOptions answer).trans
          (check_of_not_isRejected (hcheck ▸ hpassed))
  · rw [lookupToExchange_of_usable c transport hus] at hres
    refine ⟨response, hres, ?_⟩
    unfold lookupUsable at hus
    split_ifs at hus with hdis
    have hchecker := (hlookup (by simpa using hdis)).1
    exact usableResponse_accepted h (hchecker.symm.trans hcheck) hrobust hus

end

end Accepted

/-- If all calls with one key bring the same robust checker, or all of them none, every response
has passed that of its call. Calls with other keys may bring others. -/
theorem accepted_of_uniform_run
    (hpacked : ∀ key check response rawMessage response', χ key = some check →
      c.pack response = some rawMessage → c.unpack rawMessage = some response' →
      check response' = check response)
    {state : ClientState} (hrun : Run (clientStep c) (ClientStep.Uniform c χ) .initial state)
    {step : ClientStep} (hmeets : step.Uniform c χ state) (hchecked : step.Checked) :
    step.Accepted c state := by
  have hinv := clientInvariant_of_run (storeRule_checker hpacked) (fun _ _ hstep => hstep) hrun
  cases step with
  | exchange now call transport =>
    obtain ⟨question, rest, hq, hstrat, hrobust⟩ := hchecked
    intro check response hcheck hres
    exact exchange_accepted hinv hq hstrat hmeets.2 hcheck (hrobust check hcheck) hres
  | lookup now request qType transport =>
    obtain ⟨htype, hrobust⟩ := hchecked
    intro check addresses hcheck hres
    exact lookupToExchange_accepted hinv htype hmeets.2 hcheck (hrobust check hcheck) hres
  | refreshed now index transport | flush key | evict key | forgetRejected key | clearCache =>
    trivial

theorem accepted_of_uniform_run_repeated : let question : Question := ⟨"a.", dnsTypeA, dnsClassINET⟩
    let answer : Msg :=
      ⟨{ response := true }, [question], [⟨⟨"a.", dnsTypeA, dnsClassINET, 60⟩, .a [1, 2, 3, 4]⟩],
        [], []⟩
    let transport : Msg → TransportResult := fun _ => .ok answer
    let check : ResponseChecker := fun response =>
      decide (messageToAddresses response = [.v4 0x01020304])
    let call : Call := ⟨"dns", ⟨{}, [question], [], [], []⟩, {}, some check, none⟩
    let other : Call := ⟨"other", ⟨{}, [question], [], [], []⟩, {}, none, none⟩
    let step : ClientStep := .exchange 0 call transport
    let state := clientStep {} (clientStep {} .initial (.exchange 0 other transport)) step
    (exchange {} 0 call transport state).1.cached = true ∧ step.Accepted {} state := by
  intro question answer transport check call other step state
  have hrobust : Robust question {} check :=
    robust_of_addresses (by decide) {} fun addresses => decide (addresses = [.v4 0x01020304])
  have hchecked : step.Checked := by
    refine ⟨question, [], rfl, by decide, ?_⟩
    intro check' hcheck
    obtain rfl : check = check' := Option.some.inj hcheck
    exact hrobust
  -- The calls over the other transport have another key, which has no checker.
  let χ : CacheKey → Option ResponseChecker := fun key =>
    if key = ClientConfig.cacheKey {} "dns" question then some check else none
  have huniform : ∀ state, step.Uniform {} χ state := by
    refine fun state => ⟨trivial, ?_⟩
    intro question' rest hq _
    obtain rfl : question = question' := (List.cons.inj hq).1
    refine ⟨rfl, fun check' hcheck => ?_⟩
    obtain rfl : check = check' := Option.some.inj hcheck
    exact hrobust
  have hother : ∀ state, (ClientStep.exchange 0 other transport).Uniform {} χ state := by
    refine fun state => ⟨trivial, ?_⟩
    intro question' rest hq _
    obtain rfl : question = question' := (List.cons.inj hq).1
    exact ⟨rfl, fun check' hcheck => by cases hcheck⟩
  have hrun : Run (clientStep {}) (ClientStep.Uniform {} χ) .initial state :=
    (Run.start.step (hother .initial)).step (huniform _)
  refine ⟨by decide, accepted_of_uniform_run ?_ hrun (huniform state) hchecked⟩
  intro key check response rawMessage response' _ hpack _
  cases hpack

/-- A call with a checker returns what one without it has cached. -/
theorem cached_response_unchecked : let question : Question := ⟨"a.", dnsTypeA, dnsClassINET⟩
    let answer : Msg :=
      ⟨{ response := true }, [question], [⟨⟨"a.", dnsTypeA, dnsClassINET, 60⟩, .a [1, 2, 3, 4]⟩],
        [], []⟩
    let transport : Msg → TransportResult := fun _ => .ok answer
    let check : ResponseChecker := fun response =>
      decide (messageToAddresses response = [.v4 0x05060708])
    let first : Call := ⟨"dns", ⟨{}, [question], [], [], []⟩, {}, none, none⟩
    let second : Call := { first with responseChecker := some check }
    let request : LookupCall := ⟨"dns", "a", { strategy := .ipv4Only }, some check, none⟩
    let state := clientStep {} .initial (.exchange 0 first transport)
    (exchange {} 0 second transport state).1.result.toOption.map check = some false ∧
      (lookupToExchange {} 0 request dnsTypeA transport state).1.result.toOption =
        some [.v4 0x01020304] := by
  decide

end SingBox
