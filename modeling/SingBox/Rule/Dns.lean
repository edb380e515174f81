import SingBox.Rule.Groups

/-!
# DNS rules

`LegacyPreMatch` decides before the lookup, `MatchAddressLimit` on the response, and `Match` in the
newer mode.
-/

namespace SingBox
open RuleMatchStateSet HeadlessRule

inductive DNSRule where
  | default (rule : AbstractDefaultRule) (ruleSetItem : Option (RuleSetItem HeadlessRule))
      (matchResponse : Bool)
  | logical (rules : List DNSRule) (mode : LogicalMode) (invert : Bool)

def RuleSetItem.containsDestinationIPCIDRRule (item : RuleSetItem HeadlessRule) : Bool :=
  if item.ipCidrMatchSource then false
  else item.setList.any fun ruleSet => ruleSet.metadata.containsIPCIDRRule

namespace DNSRule

mutual

/-- The rule as the shared evaluators see it, without `match_response`. -/
def toHeadless : DNSRule → HeadlessRule
  | .default rule ruleSetItem _ => .default rule ruleSetItem
  | .logical rules mode invert => .logical (toHeadlessList rules) mode invert

def toHeadlessList : List DNSRule → List HeadlessRule
  | [] => []
  | rule :: rules => toHeadless rule :: toHeadlessList rules

end

mutual

def withAddressLimit : DNSRule → Bool
  | .default rule ruleSetItem _ =>
    if !rule.destinationIPCIDRItems.isEmpty then true
    else ruleSetItem.any fun item => item.containsDestinationIPCIDRRule
  | .logical rules _ _ => anyWithAddressLimit rules

def anyWithAddressLimit : List DNSRule → Bool
  | [] => false
  | rule :: rules => if withAddressLimit rule then true else anyWithAddressLimit rules

end

end DNSRule

variable (metadata : InboundContext)

def InboundContext.preLookup : InboundContext :=
  { metadata with ignoreDestinationIPCIDRMatch := true }

def InboundContext.postLookup (response : Msg) : InboundContext :=
  { metadata with
    dnsResponse := some response
    destinationAddressMatchFromResponse := true }

namespace DNSRule

/-- Could the rule match, as far as is known before the lookup? -/
def legacyPreMatch : DNSRule → InboundContext → Bool
  | .default rule ruleSetItem matchResponse, metadata =>
    if matchResponse then false
    else (HeadlessRule.default rule ruleSetItem).match metadata.preLookup
  | .logical rules mode invert, metadata =>
    (toHeadless (.logical rules mode invert)).match metadata.preLookup

variable (rule : DNSRule) (metadata : InboundContext)

def matchAddressLimit (response : Msg) : Bool :=
  rule.toHeadless.match (metadata.postLookup response)

mutual

/-- The match states if rules may ask for an earlier response. -/
def matchStatesForMatch : DNSRule → InboundContext → RuleMatchStateSet
  | .default rule ruleSetItem matchResponse, metadata =>
    if matchResponse then
      if metadata.dnsResponse.isNone then rule.invertedFailure 0#4
      else
        (HeadlessRule.default rule ruleSetItem).matchStates
          { metadata with destinationAddressMatchFromResponse := true }
    else (HeadlessRule.default rule ruleSetItem).matchStates metadata
  | .logical rules .and invert, metadata =>
    match matchAllForMatch rules metadata emptyRuleMatchState with
    | none => if invert then emptyRuleMatchState else .noMatch
    | some stateSet => if invert then .noMatch else stateSet
  | .logical rules .or invert, metadata =>
    let stateSet := matchAnyForMatch rules metadata .noMatch
    if stateSet.isEmpty then if invert then emptyRuleMatchState else .noMatch
    else if invert then .noMatch
    else stateSet

def matchAllForMatch : List DNSRule → InboundContext → RuleMatchStateSet → Option RuleMatchStateSet
  | [], _, stateSet => some stateSet
  | rule :: rules, metadata, stateSet =>
    let nestedStateSet := matchStatesForMatch rule metadata.resetRuleCache
    if nestedStateSet.isEmpty then none
    else matchAllForMatch rules metadata (stateSet.combine nestedStateSet)

def matchAnyForMatch : List DNSRule → InboundContext → RuleMatchStateSet → RuleMatchStateSet
  | [], _, stateSet => stateSet
  | rule :: rules, metadata, stateSet =>
    matchAnyForMatch rules metadata
      (stateSet.merge (matchStatesForMatch rule metadata.resetRuleCache))

end

def «match» : Bool :=
  !(rule.matchStatesForMatch metadata).isEmpty

/-! ### Rules that do not ask for the response

Without `match_response` the evaluators of the newer mode are the shared ones with no base. -/

mutual

def usesMatchResponse : DNSRule → Bool
  | .default _ _ matchResponse => matchResponse
  | .logical rules _ _ => anyUsesMatchResponse rules

def anyUsesMatchResponse : List DNSRule → Bool
  | [] => false
  | rule :: rules => usesMatchResponse rule || anyUsesMatchResponse rules

end

mutual

lemma matchStatesForMatch_eq : ∀ (rule : DNSRule) (metadata : InboundContext),
    rule.usesMatchResponse = false →
      rule.matchStatesForMatch metadata = rule.toHeadless.matchStates metadata
  | .default rule ruleSetItem matchResponse, metadata, h => by
    obtain rfl : matchResponse = false := h
    rfl
  | .logical rules .and invert, metadata, h => by
    have hloop := matchAllForMatch_eq rules metadata emptyRuleMatchState h
    rw [matchStatesForMatch, hloop, toHeadless, HeadlessRule.matchStates,
      matchStatesWithBase, ite_self]
    rfl
  | .logical rules .or invert, metadata, h => by
    have hloop := matchAnyForMatch_eq rules metadata .noMatch h
    rw [matchStatesForMatch, hloop, toHeadless, matchStates,
      matchStatesWithBase, ite_self]
    rfl

lemma matchAllForMatch_eq : ∀ (rules : List DNSRule) (metadata : InboundContext)
    (stateSet : RuleMatchStateSet), anyUsesMatchResponse rules = false →
      matchAllForMatch rules metadata stateSet =
        matchAllRules (toHeadlessList rules) metadata 0#4 stateSet
  | [], _, _, _ => rfl
  | rule :: rules, metadata, stateSet, h => by
    obtain ⟨hrule, hrules⟩ := Bool.or_eq_false_iff.1 h
    rw [matchAllForMatch, matchStatesForMatch_eq rule _ hrule,
      matchAllForMatch_eq rules metadata _ hrules, toHeadlessList, matchAllRules]
    rfl

lemma matchAnyForMatch_eq : ∀ (rules : List DNSRule) (metadata : InboundContext)
    (stateSet : RuleMatchStateSet), anyUsesMatchResponse rules = false →
      matchAnyForMatch rules metadata stateSet =
        matchAnyRule (toHeadlessList rules) metadata 0#4 stateSet
  | [], _, _, _ => rfl
  | rule :: rules, metadata, stateSet, h => by
    obtain ⟨hrule, hrules⟩ := Bool.or_eq_false_iff.1 h
    rw [matchAnyForMatch, matchStatesForMatch_eq rule _ hrule, toHeadlessList, matchAnyRule]
    exact matchAnyForMatch_eq rules metadata _ hrules

end

/-- A tree in which no rule asks for the response has the match states of the shared evaluators. -/
theorem matchStatesForMatch_eq_matchStates {rule : DNSRule} (h : rule.usesMatchResponse = false)
    (metadata : InboundContext) :
    rule.matchStatesForMatch metadata = rule.toHeadless.matchStates metadata :=
  matchStatesForMatch_eq rule metadata h

theorem matchStatesForMatch_eq_matchStates_nested :
    let rule : DNSRule := .logical
      [.logical [.default { items := [.queryType [28]] } none false,
          .default { items := [.network ["tcp"]], invert := true } none false] .or true,
        .default { items := [.queryType [1]] } none false] .and false
    let metadata : InboundContext := { network := "tcp", queryType := 1 }
    rule.usesMatchResponse = false ∧ rule.matchStatesForMatch metadata = emptyRuleMatchState ∧
      rule.matchStatesForMatch metadata = rule.toHeadless.matchStates metadata :=
  ⟨rfl, by decide +kernel, matchStatesForMatch_eq_matchStates rfl _⟩

end DNSRule

end SingBox
