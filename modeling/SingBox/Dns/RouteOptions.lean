import SingBox.Dns.Router
import SingBox.Lib.Override

/-!
# The options of queries in legacy mode

The retry loop starts each round from the options of the request, so what earlier rules have set is
lost.
-/

namespace SingBox
open List DNSSearch DNSRouteOptions Override

/-! ### Overrides -/

inductive OptionField where
  | strategy
  | disableCache
  | rewriteTTL
  | timeout
  | clientSubnet

def OptionField.Value : OptionField → Type
  | .strategy => DomainStrategy
  | .disableCache => Bool
  | .rewriteTTL => Option ℕ
  | .timeout => ℕ
  | .clientSubnet => Option IPPrefix

def DNSQueryOptions.get (options : DNSQueryOptions) : ∀ field : OptionField, field.Value
  | .strategy => options.strategy
  | .disableCache => options.disableCache
  | .rewriteTTL => options.rewriteTTL
  | .timeout => options.timeout
  | .clientSubnet => options.clientSubnet

variable (action : DNSRouteOptions)

def DNSRouteOptions.override : Override OptionField.Value
  | .strategy => if action.strategy ≠ .asIS then some action.strategy else none
  | .disableCache => if action.disableCache then some true else none
  | .rewriteTTL => if action.rewriteTTL ≠ none then some action.rewriteTTL else none
  | .timeout => if 0 < action.timeout then some action.timeout else none
  | .clientSubnet => if action.clientSubnet.isSome then some action.clientSubnet else none

variable (options : DNSQueryOptions)

lemma get_applyTo : (action.applyTo options).get = action.override.apply options.get := by
  funext field
  cases field <;> simp only [DNSQueryOptions.get, applyTo, apply, override] <;> split_ifs <;> rfl

variable (actions : List DNSRouteOptions)

def applyOptions (options : DNSQueryOptions) : DNSQueryOptions :=
  actions.foldl (fun options action => action.applyTo options) options

lemma get_applyOptions : (applyOptions actions options).get =
    applyAll (actions.map override) options.get := by
  induction actions generalizing options with
  | nil => rfl
  | cons action actions ih =>
    calc (applyOptions (action :: actions) options).get = applyAll (actions.map override)
            (action.applyTo options).get := ih _
      _ = applyAll ((action :: actions).map override) options.get := by
        rw [get_applyTo]
        rfl

lemma applyOptions_rest (options : DNSQueryOptions) :
    (applyOptions actions options).lookupStrategy = options.lookupStrategy ∧
    (applyOptions actions options).disableOptimisticCache = options.disableOptimisticCache := by
  induction actions generalizing options with
  | nil => exact ⟨rfl, rfl⟩
  | cons action actions ih => exact ih (action.applyTo options)

lemma applyOptions_eq_iff (actions' : List DNSRouteOptions) :
    applyOptions actions options = applyOptions actions' options ↔
    ∀ field, (applyOptions actions options).get field =
    (applyOptions actions' options).get field := by
  constructor
  · intro h field
    rw [h]
  · intro h
    obtain ⟨hlookup, hoptimistic⟩ := applyOptions_rest actions options
    obtain ⟨hlookup', hoptimistic'⟩ := applyOptions_rest actions' options
    have hstrat := h .strategy
    have hcache := h .disableCache
    have hrewrite := h .rewriteTTL
    have htimeout := h .timeout
    have hsubnet := h .clientSubnet
    simp only [DNSQueryOptions.get] at hstrat hcache hrewrite htimeout hsubnet
    generalize applyOptions actions options = o at *
    generalize applyOptions actions' options = o' at *
    cases o
    cases o'
    simp_all

lemma applyOptions_append_eq_iff (first others : List DNSRouteOptions) :
    applyOptions others options = applyOptions (first ++ others) options ↔
    ∀ field, (∃ action ∈ others, (action.override field).isSome) ∨
    (applyOptions first options).get field = options.get field := by
  rw [applyOptions_eq_iff]
  refine forall_congr' fun field => ?_
  rw [get_applyOptions, get_applyOptions, get_applyOptions, map_append, applyAll_append_eq_iff]
  simp [Override.Sets]

/-! ### One search -/

namespace DNSSearch
variable (search : DNSSearch)

def overrides (rules : List ActionRule) : List DNSRouteOptions := rules.filterMap fun rule =>
    match rule.action with
    | .routeOptions options => if search.preMatches rule then some options else none
    | _ => none

def expectedOptions (rules : List ActionRule) (options : DNSQueryOptions) (index : ℕ)
    (own : DNSRouteOptions) : DNSQueryOptions :=
  applyOptions (search.overrides (rules.take index) ++ [own]) options

variable {search}
variable (search) in
def Selects (rules : List ActionRule) (start : ℕ) (options : DNSQueryOptions)
    (matched : DNSMatch) (index : ℕ) (rule : ActionRule) : Prop :=
  ∃ before after, rules = before ++ rule :: after ∧ index = start + before.length ∧
    ∀ server own transport, rule.action = .route server own → matched.transport = some transport →
      matched.options =
        applyOptions (search.overrides before ++ [routeOptions transport own]) options

lemma overrides_cons (head : ActionRule) (rules : List ActionRule) :
    search.overrides (head :: rules) = search.overrides [head] ++ search.overrides rules := by
  rw [← singleton_append]
  exact filterMap_append

lemma applyOptions_append (first others : List DNSRouteOptions) (options : DNSQueryOptions) :
    applyOptions (first ++ others) options = applyOptions others (applyOptions first options) :=
  foldl_append

variable {options : DNSQueryOptions} {rules : List ActionRule} {start index : ℕ} {rule : ActionRule}

lemma Selects.cons {matched : DNSMatch} {head : ActionRule}
    (h : search.Selects rules (start + 1) (applyOptions (search.overrides [head]) options)
      matched index rule) :
    search.Selects (head :: rules) start options matched index rule := by
  obtain ⟨before, after, rfl, hidx, hopts⟩ := h
  refine ⟨head :: before, after, rfl, by rw [hidx, length_cons]; omega, ?_⟩
  intro server own transport hact htr
  rw [hopts server own transport hact htr, overrides_cons head before,
    append_assoc, applyOptions_append (search.overrides [head])]

lemma matchFrom_rule (h : (search.matchFrom rules start options).rule = some (index, rule)) :
    search.Selects rules start options (search.matchFrom rules start options) index rule := by
  induction rules generalizing start options with
  | nil => simp [matchFrom] at h
  | cons head rules ih =>
    have hpassed : search.matchFrom (head :: rules) start options =
          search.matchFrom rules (start + 1) (applyOptions (search.overrides [head]) options) →
        search.Selects (head :: rules) start options
          (search.matchFrom (head :: rules) start options) index rule := by
      intro hm
      rw [hm] at h ⊢
      exact (ih h).cons
    have hsel : (search.matchFrom (head :: rules) start options).rule = some (start, head) →
        start = index ∧ head = rule := by
      intro hrule
      rw [hrule] at h
      simpa using h
    by_cases hpre : search.preMatches head
    · rcases hact : head.action with ⟨server, own⟩ | ⟨server, own⟩ | _ | own | method |
        ⟨rcode, answer, ns, extra⟩
      · rcases hsrv : search.usableServer server with _ | transport
        · exact hpassed (by simp [matchFrom, hpre, hact, hsrv, overrides, applyOptions])
        · obtain ⟨rfl, rfl⟩ := hsel (by simp [matchFrom, hpre, hact, hsrv])
          refine ⟨[], rules, rfl, rfl, ?_⟩
          intro server' own' transport' hact' htr
          rw [hact] at hact'
          obtain ⟨rfl, rfl⟩ := DNSRuleAction.route.inj hact'
          simp only [matchFrom, hpre, hact, hsrv, if_true, Option.some.injEq] at htr
          subst htr
          simp [matchFrom, hpre, hact, hsrv, overrides, applyOptions]
      · exact hpassed (by simp [matchFrom, hpre, hact, overrides, applyOptions])
      · exact hpassed (by simp [matchFrom, hpre, hact, overrides, applyOptions])
      · exact hpassed (by simp [matchFrom, hpre, hact, overrides, applyOptions])
      -- The last two actions select no server.
      all_goals
        obtain ⟨rfl, rfl⟩ := hsel (by simp [matchFrom, hpre, hact])
        exact ⟨[], rules, rfl, rfl, by simp [hact]⟩
    · have hnone : search.overrides [head] = [] := by
        rcases hact : head.action <;> simp [overrides, hact, hpre]
      exact hpassed (by simp [matchFrom, hpre, hnone, applyOptions])

lemma matchDNS_rule {ruleIndex : Option ℕ}
    (h : (search.matchDNS rules ruleIndex options).rule = some (index, rule)) :
    startIndex ruleIndex ≤ index ∧ index < rules.length ∧
    ∀ server own transport, rule.action = .route server own →
    (search.matchDNS rules ruleIndex options).transport = some transport →
    (search.matchDNS rules ruleIndex options).options =
    applyOptions (search.overrides ((rules.take index).drop (startIndex ruleIndex)) ++
            [routeOptions transport own]) options := by
  obtain ⟨before, after, hrules, hidx, hopts⟩ := matchFrom_rule h
  have hlen : rules.length - startIndex ruleIndex = before.length + (after.length + 1) := by
    simpa using congrArg length hrules
  have hbef : (rules.take index).drop (startIndex ruleIndex) = before := by
    rw [drop_take, hrules, hidx, Nat.add_sub_cancel_left, take_left]
  refine ⟨by omega, by omega, ?_⟩
  rw [hbef]
  exact hopts

end DNSSearch

/-! ### Searching again -/

section Loop
variable {α : Type} {search : DNSSearch} {kind : LoopKind α} {rules : List ActionRule}
  {options : DNSQueryOptions} {client : Option ℕ → ServerQuery → ClientOutcome α}

def resumedAfter (ruleIndex : Option ℕ) (queries : List DNSMatch) : Option ℕ :=
  queries.foldl (fun _ matched => matched.rule.map Prod.fst) ruleIndex

variable {fuel : ℕ} {ruleIndex : Option ℕ}

lemma legacyLoop_query {before after : List DNSMatch}
    {matched : DNSMatch} (h : (legacyLoop search kind rules options client fuel ruleIndex).1 =
      before ++ matched :: after) :
    matched = search.matchDNS rules (resumedAfter ruleIndex before) options := by
  induction fuel generalizing ruleIndex before with
  | zero => simp [legacyLoop] at h
  | succ fuel ih =>
    simp only [legacyLoop] at h
    split at h
    · simp at h
    · split_ifs at h
      · rcases before with _ | ⟨first, before⟩
        · exact (cons.inj h).1.symm
        · obtain ⟨rfl, hrest⟩ := cons.inj h
          show matched = search.matchDNS rules (resumedAfter
            ((search.matchDNS rules ruleIndex options).rule.map Prod.fst) before) options
          exact ih hrest
      · rcases before with _ | ⟨first, before⟩
        · exact (cons.inj h).1.symm
        · simp at h

lemma legacyLoop_isSome (h : rules.length < fuel + startIndex ruleIndex) (hfuel : 0 < fuel) :
    (legacyLoop search kind rules options client fuel ruleIndex).2.isSome := by
  induction fuel generalizing ruleIndex with
  | zero => cases hfuel
  | succ fuel ih =>
    simp only [legacyLoop]
    split
    · rfl
    · split_ifs with hretry
      · rcases hrule : (search.matchDNS rules ruleIndex options).rule with _ | ⟨index, rule⟩
        · simp [query, hrule, addressLimitResponseCheck] at hretry
        · obtain ⟨hst, hlen, _⟩ := matchDNS_rule hrule
          have hidx : startIndex (some index) = index + 1 := rfl
          exact ih (by rw [Option.map_some, hidx]; omega) (by omega)
      · rfl

variable (env : DNSRouterEnv) (metadata : InboundContext)

lemma legacyExchange_isSome (rules : List ActionRule) (message : Msg) (options : DNSQueryOptions)
    (client : Option ℕ → ServerQuery → ClientOutcome Msg) :
    (legacyExchange env metadata rules message options client).2.isSome := by
  unfold legacyExchange
  split
  · simp only [Option.isSome_map]
    exact legacyLoop_isSome (by simp [startIndex]) (by omega)
  · rfl

lemma legacyLookup_isSome (rules : List ActionRule) (domain : String) (options : DNSQueryOptions)
    (client : Option ℕ → ServerQuery → ClientOutcome (List Addr)) :
    (legacyLookup env metadata rules domain options client).2.isSome := by
  simp only [legacyLookup, Option.isSome_map]
  exact legacyLoop_isSome (by simp [startIndex]) (by omega)

lemma overrides_take_split {start index : ℕ} (h : start ≤ index) :
    search.overrides (rules.take index) = search.overrides (rules.take start) ++
    search.overrides ((rules.take index).drop start) := by
  have hsplit : rules.take index = rules.take start ++ (rules.take index).drop start := by
    calc rules.take index = (rules.take index).take start ++ (rules.take index).drop start :=
          (take_append_drop start _).symm
      _ = _ := by rw [take_take, Nat.min_eq_left h]
  calc search.overrides (rules.take index)
      = search.overrides (rules.take start ++ (rules.take index).drop start) := by rw [← hsplit]
    _ = _ := filterMap_append

end Loop

/-!
### A rejected server

The first rule disables the cache, the second limits the addresses, and the third has options of its
own.
-/

def retryRule (addressItems : List RuleItem)
    (h : ∀ item ∈ addressItems, item.group = .destinationIPCIDR) : AbstractDefaultRule where
  items := [.environment true]
  destinationIPCIDRItems := addressItems
  group_items := by decide
  group_sourceAddressItems := by decide
  group_sourcePortItems := by decide
  group_destinationAddressItems := by decide
  group_destinationIPCIDRItems := h
  group_destinationPortItems := by decide

def retryRules (own : DNSRouteOptions) : List ActionRule :=
  let any := retryRule [] (by decide)
  let limited := retryRule [.ipCIDR false fun _ => true] (by decide)
  [⟨.default any none false, .routeOptions { disableCache := true }⟩,
    ⟨.default limited none false, .route "first" {}⟩,
    ⟨.default any none false, .route "second" own⟩]

def retryEnv : DNSRouterEnv where
  transport tag := some ⟨tag, false⟩
  defaultTransport := ⟨"default", false⟩

def retrySearch : DNSSearch := ⟨retryEnv, {}, true, true⟩

def retryClient {α : Type} (index : Option ℕ) (_ : ServerQuery) : ClientOutcome α :=
  if index = some 1 then .rejected else .failed

end SingBox
