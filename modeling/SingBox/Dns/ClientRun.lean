import SingBox.Dns.Cache
import SingBox.Lib.Run

/-!
# Runs of the DNS client

A property holds of all cached responses if every query that may store one stores only such
responses.
-/

namespace SingBox
variable (c : ClientConfig)

inductive ClientStep where
  | exchange (now : ℕ) (call : Call) (transport : Msg → TransportResult)
  | lookup (now : ℕ) (request : LookupCall) (qType : ℕ) (transport : Msg → TransportResult)
  | refreshed (now : ℕ) (index : ℕ) (transport : Msg → TransportResult)
  | flush (key : CacheKey)
  | evict (key : CacheKey)
  | forgetRejected (key : String × String × ℕ)
  | clearCache

def clientStep (state : ClientState) : ClientStep → ClientState
  | .exchange now call transport => (exchange c now call transport state).2
  | .lookup now request qType transport =>
    (lookupToExchange c now request qType transport state).2
  | .refreshed now index transport =>
    match state.backgroundRefresh[index]? with
    | none => state
    | some refresh =>
      finishRefresh c now refresh transport
        { state with backgroundRefresh := state.backgroundRefresh.eraseIdx index }
  | .flush key =>
    if c.persistent then
      { state with
        cache := state.cache.modify key fun entry =>
          { entry with expireAt := entry.expireAt / second * second } }
    else state
  | .evict key => { state with cache := state.cache.erase key }
  | .forgetRejected key => { state with rdrc := state.rdrc.filter (· ≠ key) }
  | .clearCache => { state with cache := Table.empty }

/-! ### Invariants of cached responses

`P` is the property of cached responses, `Q` one of the queries that may use the cache, and `T` one
of the transports. -/

section Invariant
variable {c} {P : CacheKey → Msg → Prop} {Q : Refresh → Prop}
  {T : String → (Msg → TransportResult) → Prop}
variable (c P Q) in
/-- Cached responses have the property `P`, and running refreshes `Q`. -/
structure ClientInvariant (state : ClientState) : Prop where
  cached : state.cache.All fun key entry =>
    ∀ response, c.entryMessage entry = some response → P key response
  refreshes : ∀ refresh ∈ state.backgroundRefresh, Q refresh

variable (c P Q T) in
/-- Queries with `Q` to transports with `T` store only responses with `P`. -/
structure StoreRule : Prop where
  packed : ∀ key response rawMessage response', P key response →
    c.pack response = some rawMessage → c.unpack rawMessage = some response' → P key response'
  stored : ∀ refresh transport response, Q refresh → T refresh.transportTag transport →
    exchangeToTransport transport refresh.message = some response →
    isRejected refresh.responseChecker response = false →
    isCacheableRcode response.hdr.rcode →
    P (c.cacheKey refresh.transportTag refresh.question)
      (applyResponseOptions refresh.question response refresh.options).1

variable (c Q) in
def Call.Meets (call : Call) : Prop := ∀ question rest, call.message.question = question :: rest →
    exchangeDisablesCache c (prepareExchangeMessage c call.message call.options) call.options =
      false →
    Q (call.refresh c question)

variable (c Q) in
def LookupCall.Meets (lookup : LookupCall) (qType : ℕ) : Prop :=
  (c.disableCache || lookup.options.disableCache) = false →
    Q ((lookup.call qType).refresh c (lookup.question qType))

variable (c Q T) in
def ClientStep.Meets (state : ClientState) : ClientStep → Prop
  | .exchange _ call transport => T call.transportTag transport ∧ call.Meets c Q
  | .lookup _ request qType transport =>
    T request.transportTag transport ∧ request.Meets c Q qType
  | .refreshed _ index transport =>
    ∀ refresh, state.backgroundRefresh[index]? = some refresh → T refresh.transportTag transport
  | _ => True

lemma ClientInvariant.initial : ClientInvariant c P Q .initial where
  cached := Table.all_empty
  refreshes := by
    intro refresh h
    simp [ClientState.initial] at h

variable {state : ClientState} {now : ℕ}
  {key : CacheKey} {message : Msg} {refresh : Refresh} {question : Question}
  {lookup : LookupCall} {qType : ℕ}
section
variable (h : ClientInvariant c P Q state)
include h

lemma ClientInvariant.storeCache (hrule : StoreRule c P Q T) {timeToLive : ℕ}
    (hmsg : P key message) :
    ClientInvariant c P Q (storeCache c now key message timeToLive state) := by
  unfold SingBox.storeCache
  split_ifs
  · exact h
  · split
    · rename_i packed hpacked
      refine ⟨h.cached.insert ?_, h.refreshes⟩
      intro response hresp
      exact hrule.packed key message packed response hmsg hpacked hresp
    · exact h
  · exact h
  · refine ⟨h.cached.insert ?_, h.refreshes⟩
    intro response hresp
    obtain rfl : message = response := by simpa [ClientConfig.entryMessage] using hresp
    exact hmsg

lemma ClientInvariant.loadResponse
    (now : ℕ) (key : CacheKey) : ClientInvariant c P Q (loadResponse c now key state).2 := by
  rcases loadResponse_state c now key state with hst | ⟨_, hst⟩
  · rw [hst]
    exact h
  · rw [hst]
    exact ⟨h.cached.erase key, h.refreshes⟩

lemma ClientInvariant.backgroundRefreshDNS (hrefresh : Q refresh) :
    ClientInvariant c P Q (backgroundRefreshDNS refresh state) := by
  unfold SingBox.backgroundRefreshDNS
  split_ifs
  · exact h
  · refine ⟨h.cached, ?_⟩
    intro running hrun
    rcases List.mem_cons.1 hrun with rfl | hrun
    · exact hrefresh
    · exact h.refreshes running hrun

lemma ClientInvariant.saveRDRC (transportTag : String) (question : Question) :
    ClientInvariant c P Q (saveRDRC c transportTag question state) := by
  unfold SingBox.saveRDRC
  split_ifs
  · exact ⟨h.cached, h.refreshes⟩
  · exact h

variable {transport : Msg → TransportResult}

lemma ClientInvariant.finishRefresh (hrule : StoreRule c P Q T) (hrefresh : Q refresh)
    (htr : T refresh.transportTag transport) :
    ClientInvariant c P Q (finishRefresh c now refresh transport state) := by
  unfold SingBox.finishRefresh
  split
  · exact h
  · rename_i response hresp
    split_ifs with hrejected hrcode
    · exact h.saveRDRC _ _
    · exact h
    · exact h.storeCache hrule (hrule.stored refresh transport response hrefresh htr
        hresp (by simpa using hrejected) (by simpa using hrcode))

variable {call : Call}

lemma ClientInvariant.exchangeCached (hcall : Q (call.refresh c question)) :
    ClientInvariant c P Q (exchangeCached c now call question message state).2 := by
  have hload := h.loadResponse now (c.cacheKey call.transportTag question)
  unfold SingBox.exchangeCached
  split
  · rename_i hloaded
    rw [hloaded] at hload
    exact hload
  · rename_i hloaded
    rw [hloaded] at hload
    split_ifs
    · exact hload.backgroundRefreshDNS hcall
    · exact hload
    · exact hload

lemma ClientInvariant.questionCache (hcall : Q (call.refresh c question)) :
    ClientInvariant c P Q (questionCache c now call question state).2 := by
  have hload := h.loadResponse now (c.cacheKey call.transportTag question)
  unfold SingBox.questionCache
  split
  · rename_i hloaded
    rw [hloaded] at hload
    exact hload
  · rename_i hloaded
    rw [hloaded] at hload
    split_ifs
    · exact hload
    · exact hload.backgroundRefreshDNS hcall
    · exact hload

lemma ClientInvariant.exchangeMiss (hrule : StoreRule c P Q T) {disableCache : Bool}
    (hcall : disableCache = false → Q (call.refresh c question))
    (htr : T call.transportTag transport) :
    ClientInvariant c P Q (exchangeMiss c now call question
      (prepareExchangeMessage c call.message call.options) disableCache transport state).2 := by
  unfold SingBox.exchangeMiss
  split_ifs
  · exact h
  · exact h
  · split
    · exact h
    · rename_i response hresp
      dsimp only
      split_ifs with hrejected hdis hdis
      · exact h
      · exact h.saveRDRC _ _
      · exact h
      · have hrcode : disableCache = false ∧ isCacheableRcode response.hdr.rcode := by
          simpa using hdis
        have hpassed : isRejected call.responseChecker response = false := by
          simpa using hrejected
        exact h.storeCache hrule (hrule.stored (call.refresh c question) transport response
          (hcall hrcode.1) htr hresp hpassed hrcode.2)

lemma ClientInvariant.exchange (hrule : StoreRule c P Q T)
    (hcall : call.Meets c Q) (htr : T call.transportTag transport) :
    ClientInvariant c P Q (exchange c now call transport state).2 := by
  unfold SingBox.exchange
  split
  · exact h
  · rename_i question rest hq
    split_ifs with hstrat
    · exact h
    · dsimp only
      by_cases hdis : exchangeDisablesCache c
          (prepareExchangeMessage c call.message call.options) call.options
      · rw [if_pos hdis]
        refine h.exchangeMiss hrule ?_ htr
        intro hfalse
        rw [hdis] at hfalse
        cases hfalse
      · rw [if_neg hdis]
        have hquery : Q (call.refresh c question) := hcall question rest hq (by simpa using hdis)
        have hca : ClientInvariant c P Q (SingBox.exchangeCached c now call question
            (prepareExchangeMessage c call.message call.options) state).2 :=
          h.exchangeCached hquery
        split
        · exact hca
        · exact hca.exchangeMiss hrule (fun _ => hquery) htr

end

lemma LookupCall.Meets.call (h : lookup.Meets c Q qType) : (lookup.call qType).Meets c Q := by
  intro question rest hq hdis
  obtain ⟨rfl, _⟩ : lookup.question qType = question ∧ [] = rest := by
    simpa [LookupCall.call] using hq
  apply h
  simp only [exchangeDisablesCache, Bool.or_eq_false_iff] at hdis
  have hopts : lookup.options.disableCache = false := by
    simpa [LookupCall.call] using hdis.2
  simp [hdis.1.2, hopts]

lemma ClientInvariant.lookupToExchange (h : ClientInvariant c P Q state) (hrule : StoreRule c P Q T)
    (hlookup : lookup.Meets c Q qType) (htr : T lookup.transportTag transport) :
    ClientInvariant c P Q (lookupToExchange c now lookup qType transport state).2 := by
  have hexch : ∀ state, ClientInvariant c P Q state →
      ClientInvariant c P Q (SingBox.exchange c now (lookup.call qType) transport state).2 :=
    fun state h => h.exchange hrule hlookup.call htr
  unfold SingBox.lookupToExchange
  dsimp only
  by_cases hdis : (c.disableCache || (lookup.call qType).options.disableCache)
  · rw [if_pos hdis]
    exact hexch state h
  · rw [if_neg hdis]
    have hquery : Q ((lookup.call qType).refresh c (lookup.question qType)) := by
      apply hlookup
      simpa [LookupCall.call] using hdis
    have hca : ClientInvariant c P Q (SingBox.questionCache c now (lookup.call qType)
        (lookup.question qType) state).2 :=
      h.questionCache hquery
    split
    · exact hca
    · exact hexch _ hca

lemma ClientInvariant.step (h : ClientInvariant c P Q state)
    (hrule : StoreRule c P Q T) {step : ClientStep} (hstep : step.Meets c Q T state) :
    ClientInvariant c P Q (clientStep c state step) := by
  cases step with
  | exchange now call transport => exact h.exchange hrule hstep.2 hstep.1
  | lookup now request qType transport => exact h.lookupToExchange hrule hstep.2 hstep.1
  | refreshed now index transport =>
    simp only [clientStep]
    split
    · exact h
    · rename_i refresh hrefresh
      have hmem : refresh ∈ state.backgroundRefresh := List.mem_of_getElem? hrefresh
      have herased : ClientInvariant c P Q
          { state with backgroundRefresh := state.backgroundRefresh.eraseIdx index } :=
        ⟨h.cached, fun running hrun =>
          h.refreshes running (List.mem_of_mem_eraseIdx hrun)⟩
      exact herased.finishRefresh hrule (h.refreshes refresh hmem) (hstep refresh hrefresh)
  | flush key =>
    simp only [clientStep]
    split_ifs
    · exact ⟨h.cached.modify fun entry hent => hent, h.refreshes⟩
    · exact h
  | evict key => exact ⟨h.cached.erase key, h.refreshes⟩
  | forgetRejected key => exact ⟨h.cached, h.refreshes⟩
  | clearCache => exact ⟨Table.all_empty, h.refreshes⟩

lemma clientInvariant_of_run (hrule : StoreRule c P Q T) {ok : ClientState → ClientStep → Prop}
    (hok : ∀ state step, ok state step → step.Meets c Q T state)
    (hrun : Run (clientStep c) ok .initial state) : ClientInvariant c P Q state :=
  hrun.invariant ClientInvariant.initial fun state step h hstep =>
    h.step hrule (hok state step hstep)

lemma ClientInvariant.usableResponse (h : ClientInvariant c P Q state) {options : DNSQueryOptions}
    {response : Msg}
    (hus : usableResponse c now key options state = some response) :
    ∃ stored, P key stored ∧
    (response = stored ∨ ∃ timeToLive, response = normalizeTTL stored timeToLive) := by
  unfold SingBox.usableResponse at hus
  split at hus
  · cases hus
  · rename_i loaded isStale hload
    split_ifs at hus
    obtain rfl : loaded = response := Option.some.inj hus
    obtain ⟨entry, stored, hent, hstored, hloaded⟩ := loadResponse_some c hload
    exact ⟨stored, h.cached key entry hent stored hstored, hloaded⟩

end Invariant

end SingBox
