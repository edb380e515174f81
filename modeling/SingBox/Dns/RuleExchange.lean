import SingBox.Dns.Router

/-!
# The options of queries outside of legacy mode

A rule may change the options of later exchanges, make an exchange whose response the rules after it
see, or make the last one.
-/

namespace SingBox
open List

/-- The strategy is skipped here, as in the source: a rule whose action sets one puts the router
into legacy mode. -/
def applyDNSRouteOptions (options : DNSQueryOptions) (routeOptions : DNSRouteOptions) :
    DNSQueryOptions :=
  { options with
    disableCache := if routeOptions.disableCache then true else options.disableCache
    disableOptimisticCache :=
      if routeOptions.disableOptimisticCache then true else options.disableOptimisticCache
    rewriteTTL :=
      if routeOptions.rewriteTTL ≠ none then routeOptions.rewriteTTL else options.rewriteTTL
    timeout := if 0 < routeOptions.timeout then routeOptions.timeout else options.timeout
    clientSubnet := if routeOptions.clientSubnet.isSome then routeOptions.clientSubnet
      else options.clientSubnet }

structure Exchange where
  transport : DNSTransport
  options : DNSQueryOptions
  response : Option Msg

structure Tested where
  rule : ActionRule
  visible : Option Msg
  matched : Bool := false
  exchange : Option Exchange := none

inductive RulesResult where
  | responded (response : Msg) (transport : DNSTransport)
  | missingResponse
  | exchanged (exchange : Exchange)
  | refused (response : Msg)
  | dropped
  | predefined (response : Msg)

structure RulesState where
  effectiveOptions : DNSQueryOptions
  evaluated : Option (Msg × DNSTransport) := none

def RulesState.visible (s : RulesState) : Option Msg := s.evaluated.map Prod.fst

structure RulesExchange where
  env : DNSRouterEnv
  metadata : InboundContext
  message : Msg
  question : Question
  allowFakeIP : Bool
  client : ℕ → DNSTransport → DNSQueryOptions → Option Msg

namespace RulesExchange
variable (x : RulesExchange)

def metadataFor (visible : Option Msg) : InboundContext := { x.metadata.resetRuleCache with
    dnsResponse := visible
    destinationAddressMatchFromResponse := false }

/-- The default strategy of the router is used where there is no other. -/
def exchangeOptions (options : DNSQueryOptions) : DNSQueryOptions :=
  if options.strategy = .asIS then { options with strategy := x.env.defaultDomainStrategy }
  else options

variable (left : ℕ) (transport : DNSTransport)

def exchange (options : DNSQueryOptions) : Exchange :=
  ⟨transport, x.exchangeOptions options, x.client left transport (x.exchangeOptions options)⟩

def routeTo (options : DNSQueryOptions) : DNSQueryOptions :=
  if transport.isFakeIP then { options with disableCache := true } else options

/-- A server that is missing or must not be used is skipped. -/
def resolveDNSRoute (server : String) (routeOptions : DNSRouteOptions) (options : DNSQueryOptions) :
    Option (DNSTransport × DNSQueryOptions) :=
  match x.env.transport server with
  | none => none
  | some transport =>
    if transport.isFakeIP && !x.allowFakeIP then none
    else some (transport, routeTo transport (applyDNSRouteOptions options routeOptions))

def act (s : RulesState) : DNSRuleAction → Option Exchange × (RulesState ⊕ RulesResult)
  | .routeOptions options =>
    (none, .inl { s with effectiveOptions := applyDNSRouteOptions s.effectiveOptions options })
  | .evaluate server options =>
    match x.env.transport server with
    | none => (none, .inl { s with evaluated := none })
    | some transport =>
      let e := x.exchange left transport (applyDNSRouteOptions s.effectiveOptions options)
      (some e, .inl { s with evaluated := e.response.map (·, transport) })
  | .respond =>
    match s.evaluated with
    | none => (none, .inr .missingResponse)
    | some (response, transport) => (none, .inr (.responded response transport))
  | .route server options =>
    match x.resolveDNSRoute server options s.effectiveOptions with
    | none => (none, .inl s)
    | some (transport, options) =>
      (some (x.exchange left transport options),
        .inr (.exchanged (x.exchange left transport options)))
  | .reject .default =>
    (none, .inr (.refused ⟨{ id := x.message.hdr.id, rcode := rcodeRefused, response := true },
      [x.question], [], [], []⟩))
  | .reject .drop => (none, .inr .dropped)
  | .reject .reply => (none, .inl s)
  | .predefined rcode answer ns extra =>
    (none, .inr (.predefined (predefinedResponse x.message x.question rcode answer ns extra)))

def test (s : RulesState) (rule : ActionRule) : Tested × (RulesState ⊕ RulesResult) :=
  if rule.rule.match (x.metadataFor s.visible) then
    (⟨rule, s.visible, true, (x.act left s rule.action).1⟩, (x.act left s rule.action).2)
  else ({ rule, visible := s.visible }, .inl s)

def loop : List ActionRule → RulesState → List Tested × (RulesState ⊕ RulesResult)
  | [], s => ([], .inl s)
  | rule :: rules, s =>
    match x.test (rules.length + 1) s rule with
    | (tested, .inl s) => (tested :: (loop rules s).1, (loop rules s).2)
    | (tested, .inr result) => ([tested], .inr result)

/-- If no rule ends the loop, the default server is asked. -/
def exchangeWithRules (rules : List ActionRule) (options : DNSQueryOptions) :
    List Tested × (Exchange ⊕ RulesResult) :=
  (x.loop rules { effectiveOptions := options }).map id
    (Sum.map (fun s => x.exchange 0 x.env.defaultTransport s.effectiveOptions) id)

end RulesExchange

def overridesOf (before : List Tested) : List DNSRouteOptions := before.filterMap fun t =>
    match t.matched, t.rule.action with
    | true, .routeOptions options => some options
    | _, _ => none

def evaluations (before : List Tested) : List (Option Msg) := before.filterMap fun t =>
    match t.matched, t.rule.action with
    | true, .evaluate _ _ => some (t.exchange.bind Exchange.response)
    | _, _ => none

def evaluatedBy (before : List Tested) : Option Msg := (evaluations before).getLast?.join

def overridden (options : DNSQueryOptions) (overrides : List DNSRouteOptions) : DNSQueryOptions :=
  overrides.foldl applyDNSRouteOptions options

def DNSRuleAction.queryOptions (transport : DNSTransport) (options : DNSQueryOptions) :
    DNSRuleAction → DNSQueryOptions
  | .route _ own => RulesExchange.routeTo transport (applyDNSRouteOptions options own)
  | .evaluate _ own => applyDNSRouteOptions options own
  | _ => options

variable {x : RulesExchange} {options : DNSQueryOptions} {s : RulesState} {before : List Tested}

structure Tested.Right (x : RulesExchange) (options : DNSQueryOptions) (before : List Tested)
    (t : Tested) : Prop where
  visible : t.visible = evaluatedBy before
  matched : t.matched = t.rule.rule.match (x.metadataFor t.visible)
  exchange : ∀ e, t.exchange = some e → e.options = x.exchangeOptions
    (t.rule.action.queryOptions e.transport (overridden options (overridesOf before)))

inductive AllRight (x : RulesExchange) (options : DNSQueryOptions) : List Tested → Prop
  | nil : AllRight x options []
  | snoc {before : List Tested} {t : Tested} (h : AllRight x options before)
      (ht : t.Right x options before) : AllRight x options (before ++ [t])

structure RulesState.After (options : DNSQueryOptions) (before : List Tested) (s : RulesState) :
    Prop where
  effectiveOptions : s.effectiveOptions = overridden options (overridesOf before)
  visible : s.visible = evaluatedBy before

namespace RulesExchange
variable {left : ℕ} {s' : RulesState} {rule : ActionRule}

lemma act_exchange {action : DNSRuleAction} {e : Exchange} (h : (x.act left s action).1 = some e) :
    e.options = x.exchangeOptions (action.queryOptions e.transport s.effectiveOptions) := by
  cases action with
  | evaluate server own =>
    rw [act] at h
    split at h
    · cases h
    · cases h
      rfl
  | route server own =>
    rw [act, resolveDNSRoute] at h
    generalize x.env.transport server = transport at h
    cases transport with
    | none => cases h
    | some transport =>
      dsimp only at h
      split_ifs at h
      cases h
      rfl
  | respond =>
    rw [act] at h
    split at h <;> cases h
  | reject method => cases method <;> cases h
  | _ => cases h

section
variable (h : s.After options before)
include h

lemma after_skip {t : Tested} (hover : overridesOf [t] = [])
    (heval : evaluations [t] = []) : s.After options (before ++ [t]) := by
  have hover' : overridesOf (before ++ [t]) = overridesOf before ++ overridesOf [t] :=
    filterMap_append
  have heval' : evaluations (before ++ [t]) = evaluations before ++ evaluations [t] :=
    filterMap_append
  constructor
  · rw [hover', hover, append_nil, h.effectiveOptions]
  · rw [evaluatedBy, heval', heval, append_nil, h.visible, evaluatedBy]

lemma act_after (hact : (x.act left s rule.action).2 = .inl s') (visible : Option Msg) :
    s'.After options (before ++ [⟨rule, visible, true, (x.act left s rule.action).1⟩]) := by
  obtain ⟨rule, action⟩ := rule
  cases action with
  | routeOptions own =>
    cases hact
    constructor
    · simp [overridesOf, overridden, h.effectiveOptions]
    · change s.visible = _
      simp [evaluatedBy, evaluations, h.visible]
  | evaluate server own =>
    rw [act] at hact ⊢
    generalize x.env.transport server = transport at hact ⊢
    cases transport <;> cases hact <;> constructor
    · simp [overridesOf, h.effectiveOptions]
    · simp [RulesState.visible, evaluatedBy, evaluations]
    · simp [overridesOf, h.effectiveOptions]
    · simp [RulesState.visible, evaluatedBy, evaluations, Function.comp_def]
  | respond =>
    rw [act] at hact
    split at hact <;> cases hact
  | route server own =>
    rw [act] at hact ⊢
    generalize x.resolveDNSRoute server own s.effectiveOptions = route at hact ⊢
    cases route <;> cases hact
    exact after_skip h rfl rfl
  | reject method =>
    cases method <;> cases hact
    exact after_skip h rfl rfl
  | predefined => cases hact

lemma test_right (left : ℕ) (rule : ActionRule) :
    (x.test left s rule).1.Right x options before := by
  rw [test]
  split
  case isTrue hm =>
    refine ⟨h.visible, hm.symm, fun e he => ?_⟩
    rw [← h.effectiveOptions]
    exact act_exchange he
  case isFalse hm =>
    refine ⟨h.visible, (Bool.eq_false_iff.2 hm).symm, fun e he => ?_⟩
    cases he

lemma test_after (hnext : (x.test left s rule).2 = .inl s') :
    s'.After options (before ++ [(x.test left s rule).1]) := by
  rw [test] at hnext ⊢
  split at hnext
  case isTrue hm =>
    rw [if_pos hm]
    exact act_after h hnext _
  case isFalse hm =>
    rw [if_neg hm]
    cases hnext
    exact after_skip h rfl rfl

end

lemma loop_right (hright : AllRight x options before) (h : s.After options before)
    (rules : List ActionRule) :
    AllRight x options (before ++ (x.loop rules s).1) ∧
    ∀ s', (x.loop rules s).2 = .inl s' → s'.After options (before ++ (x.loop rules s).1) := by
  induction rules generalizing s before with
  | nil =>
    rw [loop, append_nil]
    exact ⟨hright, by rintro s' ⟨⟩; exact h⟩
  | cons rule rules ih =>
    have htested := hright.snoc (test_right h (rules.length + 1) rule)
    rw [loop]
    split
    case h_1 tested s' htest =>
      have hafter := test_after h (congrArg Prod.snd htest)
      rw [htest] at htested hafter
      have hrest := ih htested hafter
      rwa [append_assoc] at hrest
    case h_2 tested result htest =>
      rw [htest] at htested
      exact ⟨htested, fun s' hs' => by cases hs'⟩

lemma loop_rules (rules : List ActionRule) (s : RulesState) :
    (x.loop rules s).1.map Tested.rule <+: rules := by
  induction rules generalizing s with
  | nil => exact prefix_rfl
  | cons rule rules ih =>
    have hrule : (x.test (rules.length + 1) s rule).1.rule = rule := by
      rw [test]
      split <;> rfl
    rw [loop]
    split <;> rename_i htest <;> rw [htest] at hrule <;> subst hrule <;>
      refine cons_prefix_cons.2 ⟨rfl, ?_⟩
    · exact ih _
    · exact nil_prefix

/-- A rule sees the response of the last matching evaluation, and has the options of all matching
route options before it and its own. -/
theorem exchangeWithRules_right (x : RulesExchange) (rules : List ActionRule)
    (options : DNSQueryOptions) :
    (x.exchangeWithRules rules options).1.map Tested.rule <+: rules ∧
    AllRight x options (x.exchangeWithRules rules options).1 ∧
    ∀ e, (x.exchangeWithRules rules options).2 = .inl e → e.options = x.exchangeOptions
      (overridden options (overridesOf (x.exchangeWithRules rules options).1)) := by
  have hst : RulesState.After options [] { effectiveOptions := options } := ⟨rfl, rfl⟩
  obtain ⟨hright, hlast⟩ := loop_right (.nil (x := x)) hst rules
  refine ⟨loop_rules rules _, hright, fun e he => ?_⟩
  rw [exchangeWithRules, Prod.map_snd] at he
  cases hloop : (x.loop rules { effectiveOptions := options }).2 with
  | inl s =>
    rw [hloop] at he
    cases he
    exact congrArg x.exchangeOptions (hlast s hloop).effectiveOptions
  | inr result =>
    rw [hloop] at he
    cases he

/-- The default strategy is added; a fake IP server disables the cache. -/
theorem exchangeWithRules_options_changed :
    let x : RulesExchange := ⟨{
      transport := fun _ => some { tag := "fakeip", isFakeIP := true }
      defaultTransport := { tag := "default" }
      defaultDomainStrategy := .preferIPv4 }, {}, ⟨{}, [], [], [], []⟩, ⟨"example.", 1, 1⟩, true,
      fun _ _ _ => none⟩
    (∃ e, (x.exchangeWithRules [] {}).2 = .inl e ∧ e.options = { strategy := .preferIPv4 }) ∧
      ∃ t e, (x.exchangeWithRules [⟨.default {} none false, .route "fakeip" {}⟩]
          { strategy := .ipv4Only }).1 = [t] ∧ t.exchange = some e ∧
        e.options = { strategy := .ipv4Only, disableCache := true } :=
  ⟨⟨_, rfl, rfl⟩, _, _, rfl, rfl, rfl⟩

end RulesExchange

end SingBox
