import SingBox.Rule.Dns

/-!
# A rule after the lookup reads only the response

`MatchAddressLimit` must not look at addresses that were in the metadata before the lookup.
-/

namespace SingBox
open RuleMatchStateSet HeadlessRule List InboundContext AbstractDefaultRule RuleItem
variable {metadata : InboundContext} (addresses : List Addr)

def InboundContext.withAddresses (metadata : InboundContext) : InboundContext :=
  { metadata with destinationAddresses := addresses }

def RuleItem.isPreferredBy : RuleItem → Bool
  | preferredBy _ _ => true
  | _ => false

/-- It has no `preferred_by` item, which only route rules have. -/
inductive HeadlessRule.OfDNS : HeadlessRule → Prop
  | default {rule : AbstractDefaultRule} {ruleSetItem : Option (RuleSetItem HeadlessRule)}
      (items : ∀ item ∈ rule.items, item.isPreferredBy = false)
      (branches : ∀ item, ruleSetItem = some item → ∀ ruleSet ∈ item.setList,
        ∀ branch ∈ ruleSet.rules, OfDNS branch) : OfDNS (.default rule ruleSetItem)
  | logical {rules : List HeadlessRule} {mode : LogicalMode} {invert : Bool}
      (rules_ofDNS : ∀ rule ∈ rules, OfDNS rule) : OfDNS (.logical rules mode invert)

section
variable (h : metadata.destinationAddressMatchFromResponse)
include h

lemma RuleItem.match_withAddresses {item : RuleItem} (hitem : item.isPreferredBy = false) :
    item.match (metadata.withAddresses addresses) = item.match metadata := by
  cases item with
  | ipCIDR isSource ipSet =>
    simp [RuleItem.match, matchIPCIDR, withAddresses, h,
      dnsResponseAddressesForMatch]
  | ipIsPrivate isSource isPublicAddr =>
    simp [RuleItem.match, matchIPIsPrivate, withAddresses, h,
      dnsResponseAddressesForMatch]
  | ipAcceptAny =>
    simp [RuleItem.match, withAddresses, h,
      dnsResponseAddressesForMatch]
  | preferredBy _ _ => simp [RuleItem.isPreferredBy] at hitem
  | _ => rfl

lemma matchAnyItem_withAddresses {items : List RuleItem} {g : ItemGroup} (hg : g ≠ .other)
    (hitems : ∀ item ∈ items, item.group = g) :
    matchAnyItem items (metadata.withAddresses addresses) = matchAnyItem items metadata := by
  unfold matchAnyItem
  rw [Bool.eq_iff_iff, any_eq_true, any_eq_true]
  refine exists_congr fun item => and_congr_right fun hmem => ?_
  have hgroup := hitems item hmem
  rw [match_withAddresses addresses h (by
    cases item <;> simp_all [group, isPreferredBy])]

lemma AbstractDefaultRule.groupBits_withAddresses (r : AbstractDefaultRule) :
    r.groupBits (metadata.withAddresses addresses) = r.groupBits metadata := by
  unfold groupBits
  rw [matchAnyItem_withAddresses addresses h (by decide) r.group_sourceAddressItems,
    matchAnyItem_withAddresses addresses h (by decide) r.group_sourcePortItems,
    matchAnyItem_withAddresses addresses h (by decide) r.group_destinationAddressItems,
    matchAnyItem_withAddresses addresses h (by decide) r.group_destinationIPCIDRItems,
    matchAnyItem_withAddresses addresses h (by decide) r.group_destinationPortItems]
  rfl

end

lemma matchAllRules_congr {metadata' : InboundContext} {rules : List HeadlessRule}
    {base : RuleMatchState} (acc : RuleMatchStateSet)
    (h : ∀ rule ∈ rules, rule.matchStatesWithBase metadata.resetRuleCache base =
      rule.matchStatesWithBase metadata'.resetRuleCache base) :
    matchAllRules rules metadata base acc = matchAllRules rules metadata' base acc := by
  induction rules generalizing acc with
  | nil => rfl
  | cons rule rules ih =>
    rw [matchAllRules, matchAllRules, h rule mem_cons_self,
      ih _ fun rule hmem => h rule (mem_cons_of_mem _ hmem)]

lemma HeadlessRule.OfDNS.withAddresses {rule : HeadlessRule} (hrule : rule.OfDNS)
    (h : metadata.destinationAddressMatchFromResponse) (base : RuleMatchState) :
    rule.matchStatesWithBase (metadata.withAddresses addresses) base =
    rule.matchStatesWithBase metadata base := by
  induction hrule generalizing metadata base with
  | @default rule ruleSetItem items branches ih =>
    have hoth : rule.otherItemsMatch (metadata.withAddresses addresses) =
        rule.otherItemsMatch metadata := by
      unfold otherItemsMatch
      rw [Bool.eq_iff_iff, all_eq_true, all_eq_true]
      exact forall₂_congr fun item hmem => by
        rw [match_withAddresses addresses h (items item hmem)]
    have hpositive : ∀ base, rule.positiveStates (ruleSetStates ruleSetItem)
        (metadata.withAddresses addresses) base =
          rule.positiveStates (ruleSetStates ruleSetItem) metadata base := by
      intro base
      unfold positiveStates
      rw [hoth, rule.groupBits_withAddresses addresses h]
      cases ruleSetItem with
      | none => rfl
      | some item =>
        have hstates : ∀ base, item.matchStatesWithBase
            (metadata.withAddresses addresses).setDidMatch base =
              item.matchStatesWithBase metadata.setDidMatch base := by
          intro base
          refine ext_contains fun x => ?_
          rw [RuleSetItem.contains_matchStatesWithBase, RuleSetItem.contains_matchStatesWithBase]
          refine exists_congr fun ruleSet => and_congr_right fun hset =>
            exists_congr fun branch => and_congr_right fun hbranch => ?_
          have hbase := @ih item rfl ruleSet hset branch hbranch (item.branchMetadata metadata) h
          exact iff_of_eq (congrArg (fun states => states.contains x = true) (hbase base))
        simp only [ruleSetStates, Option.map_some, hstates]
        rfl
    simp only [matchStatesWithBase_default, matchStatesWithBase_eq,
      invertedMatches, hpositive]
    rfl
  | @logical rules mode invert _ ih =>
    have hpositive : ∀ base, (HeadlessRule.logical rules mode false).matchStatesWithBase
        (metadata.withAddresses addresses) base =
          (HeadlessRule.logical rules mode false).matchStatesWithBase metadata base := by
      intro base
      have hrules : ∀ rule ∈ rules, rule.matchStatesWithBase
          (metadata.withAddresses addresses).resetRuleCache base =
            rule.matchStatesWithBase metadata.resetRuleCache base := by
        intro rule hmem
        exact @ih rule hmem metadata.resetRuleCache h base
      cases mode with
      | and => rw [matchStatesWithBase_and, matchStatesWithBase_and, matchAllRules_congr _ hrules]
      | or =>
        rw [matchStatesWithBase_or, matchStatesWithBase_or]
        refine ext_contains fun x => ?_
        rw [contains_matchAnyRule, contains_matchAnyRule]
        refine or_congr_right (exists_congr fun rule => and_congr_right fun hmem => ?_)
        rw [hrules rule hmem]
    cases invert with
    | false => exact hpositive base
    | true => rw [matchStatesWithBase_logical_invert, matchStatesWithBase_logical_invert, hpositive]

/-- The destination addresses do not matter after a lookup. -/
theorem matchAddressLimit_withAddresses (rule : DNSRule) (hrule : rule.toHeadless.OfDNS)
    (metadata : InboundContext) (response : Msg) (addresses : List Addr) :
    rule.matchAddressLimit (metadata.withAddresses addresses) response =
      rule.matchAddressLimit metadata response := by
  have hstates := @OfDNS.withAddresses (metadata.postLookup response) addresses _ hrule rfl 0#4
  exact congrArg (fun states : RuleMatchStateSet => !states.isEmpty) hstates

theorem matchAddressLimit_withAddresses_inverted :
    let rule : DNSRule := .logical
      [.default { destinationIPCIDRItems := [.ipAcceptAny] } none false] .or true
    let response : Msg := ⟨{}, [], [], [], []⟩
    rule.matchAddressLimit {} response = true ∧
      rule.matchAddressLimit (withAddresses [.v4 0] {}) response =
        rule.matchAddressLimit {} response := by
  refine ⟨by decide +kernel, matchAddressLimit_withAddresses _ ?_ ..⟩
  rw [DNSRule.toHeadless]
  refine .logical fun rule hmem => ?_
  obtain rfl := mem_singleton.1 hmem
  exact .default (by simp) (by simp)

end SingBox
