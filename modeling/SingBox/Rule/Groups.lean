import SingBox.Rule.Abstract

/-!
# What the evaluators compute

`groupBits` are the groups some item of which matches, `requiredBits` those the rule has a condition
in.
-/

namespace SingBox
open RuleMatchState RuleMatchStateSet HeadlessRule

/-! ### The groups of a rule -/

def bitIf (b : Bool) (bit : RuleMatchState) : RuleMatchState := if b then bit else 0#4

namespace AbstractDefaultRule

def groupBits (r : AbstractDefaultRule) (metadata : InboundContext) : RuleMatchState :=
  bitIf (matchAnyItem r.sourceAddressItems metadata ||
      r.destinationIPCIDRMatchesSource metadata && matchAnyItem r.destinationIPCIDRItems metadata)
    ruleMatchSourceAddress |||
  bitIf (matchAnyItem r.sourcePortItems metadata) ruleMatchSourcePort |||
  bitIf (matchAnyItem r.destinationAddressItems metadata ||
      r.destinationIPCIDRMatchesDestination metadata &&
        matchAnyItem r.destinationIPCIDRItems metadata)
    ruleMatchDestinationAddress |||
  bitIf (matchAnyItem r.destinationPortItems metadata) ruleMatchDestinationPort

def requiredBits (r : AbstractDefaultRule) (metadata : InboundContext) : RuleMatchState :=
  bitIf (r.requiresSourceAddressMatch metadata) ruleMatchSourceAddress |||
  bitIf (!r.sourcePortItems.isEmpty) ruleMatchSourcePort |||
  bitIf (r.requiresDestinationAddressMatch metadata) ruleMatchDestinationAddress |||
  bitIf (!r.destinationPortItems.isEmpty) ruleMatchDestinationPort

def anyGroup (r : AbstractDefaultRule) (metadata : InboundContext) : Bool :=
  r.requiresSourceAddressMatch metadata || !r.sourcePortItems.isEmpty ||
    r.requiresDestinationAddressMatch metadata || !r.destinationPortItems.isEmpty

def otherItemsMatch (r : AbstractDefaultRule) (metadata : InboundContext) : Bool :=
  r.items.all fun item => item.match metadata

variable (r : AbstractDefaultRule) (items : List RuleItem) (b : Bool) (metadata : InboundContext)

def markIf (metadata : InboundContext) : InboundContext :=
  if b then metadata.setDidMatch else metadata

@[simp] lemma markIf_markIf (c : Bool) :
    markIf c (markIf b metadata) = markIf (b || c) metadata := by
  cases b <;> cases c <;> rfl

@[simp] lemma setDidMatch_markIf : (markIf b metadata).setDidMatch = metadata.setDidMatch := by
  cases b <;> rfl

@[simp] lemma markIf_setDidMatch : markIf b metadata.setDidMatch = metadata.setDidMatch := by
  cases b <;> rfl

@[simp] lemma matchAnyItem_setDidMatch :
    matchAnyItem items metadata.setDidMatch = matchAnyItem items metadata := by
  simp [matchAnyItem]

@[simp] lemma matchAnyItem_markIf :
    matchAnyItem items (markIf b metadata) = matchAnyItem items metadata := by
  cases b <;> simp [markIf]

lemma match_markIf (item : RuleItem) : item.match (markIf b metadata) = item.match metadata := by
  cases b <;> simp [markIf]

@[simp] lemma matchAnyItem_nil : matchAnyItem [] metadata = false := rfl

@[simp] lemma destinationIPCIDRMatchesSource_markIf :
    r.destinationIPCIDRMatchesSource (markIf b metadata) =
    r.destinationIPCIDRMatchesSource metadata := by
  cases b <;> rfl

@[simp] lemma destinationIPCIDRMatchesDestination_markIf :
    r.destinationIPCIDRMatchesDestination (markIf b metadata) =
    r.destinationIPCIDRMatchesDestination metadata := by
  cases b <;> rfl

lemma matchGroup_eq (bit state : RuleMatchState) :
    matchGroup (!items.isEmpty) items bit (metadata, state) =
    (markIf (!items.isEmpty) metadata, state ||| bitIf (matchAnyItem items metadata) bit) := by
  cases hitems : items.isEmpty with
  | true =>
    obtain rfl : items = [] := by simpa using hitems
    simp [matchGroup, markIf, bitIf]
  | false =>
    cases hm : matchAnyItem items metadata <;> simp [matchGroup, markIf, bitIf, hm]

lemma or_bit_of_has {state bit : RuleMatchState}
    (hbit : bit = ruleMatchSourceAddress ∨ bit = ruleMatchDestinationAddress)
    (h : state.has bit) : state ||| bit = state := by
  revert h
  rcases hbit with rfl | rfl <;> revert state <;> decide

lemma matchIPCIDRGroup_eq (present : Bool) {bit : RuleMatchState}
    (hbit : bit = ruleMatchSourceAddress ∨ bit = ruleMatchDestinationAddress)
    (state : RuleMatchState) :
    matchIPCIDRGroup present items bit (metadata, state) = (markIf present metadata,
        state ||| bitIf (present && matchAnyItem items metadata) bit) := by
  cases present with
  | false => simp [matchIPCIDRGroup, markIf, bitIf]
  | true =>
    cases hhas : state.has bit with
    | true =>
      have hor : state ||| bit = state := or_bit_of_has hbit hhas
      cases matchAnyItem items metadata <;> simp [matchIPCIDRGroup, markIf, bitIf, hhas, hor]
    | false =>
      cases hm : matchAnyItem items metadata <;> simp [matchIPCIDRGroup, markIf, bitIf, hhas, hm]

lemma bitIf_or (c : Bool) (bit : RuleMatchState) :
    bitIf (b || c) bit = bitIf b bit ||| bitIf c bit := by
  cases b <;> cases c <;> simp [bitIf]

lemma matchGroups_eq (base : RuleMatchState) :
    r.matchGroups metadata base =
    (markIf (r.anyGroup metadata) metadata, base ||| r.groupBits metadata) := by
  unfold matchGroups
  simp only [matchGroup_eq, matchIPCIDRGroup_eq _ _ _ (.inl rfl),
    matchIPCIDRGroup_eq _ _ _ (.inr rfl), markIf_markIf, matchAnyItem_markIf,
    destinationIPCIDRMatchesSource_markIf, destinationIPCIDRMatchesDestination_markIf]
  refine Prod.ext ?_ ?_
  · simp [anyGroup, requiresSourceAddressMatch, requiresDestinationAddressMatch, Bool.or_assoc]
  · simp [groupBits, bitIf_or, BitVec.or_assoc]

lemma matchItems_eq : matchItems items metadata =
    if items.all fun item => item.match metadata then some (markIf (!items.isEmpty) metadata)
    else none := by
  induction items generalizing metadata with
  | nil => simp [matchItems, markIf]
  | cons item items ih =>
    rw [matchItems, ih]
    simp only [RuleItem.match_setDidMatch, markIf_setDidMatch, List.all_cons, List.isEmpty_cons]
    by_cases h : item.match metadata <;> simp [h, markIf]

lemma stateAllowed_eq (state : RuleMatchState) :
    r.stateAllowed metadata state = decide (Subset (r.requiredBits metadata) state) := by
  unfold stateAllowed requiredBits
  generalize r.requiresSourceAddressMatch metadata = b₁
  generalize (!r.sourcePortItems.isEmpty) = b₂
  generalize r.requiresDestinationAddressMatch metadata = b₃
  generalize (!r.destinationPortItems.isEmpty) = b₄
  revert b₁ b₂ b₃ b₄ state
  decide

/-! ### The states of a default rule -/

def positiveStates (r : AbstractDefaultRule)
    (ruleSetStates : Option (InboundContext → RuleMatchState → RuleMatchStateSet))
    (metadata : InboundContext) (base : RuleMatchState) : RuleMatchStateSet :=
  if r.otherItemsMatch metadata then
    (match ruleSetStates with
      | some states => states metadata.setDidMatch (base ||| r.groupBits metadata)
      | none => singleRuleMatchState (base ||| r.groupBits metadata)).filter
        fun state => decide (Subset (r.requiredBits metadata) state)
  else .noMatch

def onlyIPCIDR (r : AbstractDefaultRule) : Bool :=
  r.items.isEmpty && r.sourceAddressItems.isEmpty && r.sourcePortItems.isEmpty &&
    r.destinationAddressItems.isEmpty && r.destinationPortItems.isEmpty &&
      !r.destinationIPCIDRItems.isEmpty

/-- No items, or its conditions fail or are left out for now. -/
def invertedMatches (r : AbstractDefaultRule)
    (ruleSetStates : Option (InboundContext → RuleMatchState → RuleMatchStateSet))
    (metadata : InboundContext) : Bool :=
  (r.itemCount = 0 && ruleSetStates.isNone) ||
    (r.positiveStates ruleSetStates metadata 0#4).isEmpty ||
      (metadata.ignoreDestinationIPCIDRMatch && !metadata.didMatch && r.onlyIPCIDR &&
        ruleSetStates.isNone)

@[simp] lemma stateAllowed_markIf :
    r.stateAllowed (markIf b metadata) = r.stateAllowed metadata := by
  cases b <;> rfl

@[simp] lemma stateAllowed_setDidMatch :
    r.stateAllowed metadata.setDidMatch = r.stateAllowed metadata := rfl

variable {r}

lemma lists_eq_nil_of_itemCount (h : r.itemCount = 0) :
    r.items = [] ∧ r.sourceAddressItems = [] ∧ r.sourcePortItems = [] ∧
    r.destinationAddressItems = [] ∧ r.destinationIPCIDRItems = [] ∧
    r.destinationPortItems = [] := by
  unfold itemCount at h
  simp only [← List.length_eq_zero_iff]
  omega

lemma positiveStates_of_itemCount (h : r.itemCount = 0) (base : RuleMatchState) :
    r.positiveStates none metadata base = emptyRuleMatchState.withBase base := by
  obtain ⟨h₁, h₂, h₃, h₄, h₅, h₆⟩ := lists_eq_nil_of_itemCount h
  apply ext_contains
  intro x
  have hbits : r.groupBits metadata = 0#4 := by simp [groupBits, h₂, h₃, h₄, h₅, h₆, bitIf]
  have hreq : r.requiredBits metadata = 0#4 := by
    simp [requiredBits, requiresSourceAddressMatch, requiresDestinationAddressMatch,
      destinationIPCIDRMatchesSource, destinationIPCIDRMatchesDestination, h₂, h₃, h₄, h₅, h₆,
      bitIf]
  simp [positiveStates, otherItemsMatch, h₁, hbits, hreq, zero_subset]

lemma positiveStates_of_onlyIPCIDR {metadata : InboundContext}
    (hign : metadata.ignoreDestinationIPCIDRMatch) (h : r.onlyIPCIDR) :
    r.positiveStates none metadata 0#4 = emptyRuleMatchState := by
  simp only [onlyIPCIDR, Bool.and_eq_true, List.isEmpty_iff] at h
  obtain ⟨⟨⟨⟨⟨h₁, h₂⟩, h₃⟩, h₄⟩, h₅⟩, -⟩ := h
  apply ext_contains
  intro x
  have hbits : r.groupBits metadata = 0#4 := by
    simp [groupBits, destinationIPCIDRMatchesSource, destinationIPCIDRMatchesDestination, hign,
      h₂, h₃, h₄, h₅, bitIf]
  have hreq : r.requiredBits metadata = 0#4 := by
    simp [requiredBits, requiresSourceAddressMatch, requiresDestinationAddressMatch,
      destinationIPCIDRMatchesSource, destinationIPCIDRMatchesDestination, hign, h₂, h₃, h₄, h₅,
      bitIf]
  simp [positiveStates, otherItemsMatch, h₁, hbits, hreq, zero_subset]

lemma onlyIPCIDR_eq {metadata : InboundContext} (hign : metadata.ignoreDestinationIPCIDRMatch) :
    r.onlyIPCIDR = (!(r.anyGroup metadata || !r.items.isEmpty) &&
      !r.destinationIPCIDRItems.isEmpty) := by
  unfold anyGroup onlyIPCIDR requiresSourceAddressMatch requiresDestinationAddressMatch
    destinationIPCIDRMatchesSource destinationIPCIDRMatchesDestination
  grind

/-- Nothing was looked at, and an inverted rule has only `ip_cidr` items. -/
lemma deferred_eq :
    ((markIf (r.anyGroup metadata || !r.items.isEmpty) metadata).ignoreDestinationIPCIDRMatch &&
        r.positiveStates none metadata 0#4 == emptyRuleMatchState &&
        !(markIf (r.anyGroup metadata || !r.items.isEmpty) metadata).didMatch &&
        !r.destinationIPCIDRItems.isEmpty) =
    (metadata.ignoreDestinationIPCIDRMatch && !metadata.didMatch && r.onlyIPCIDR) := by
  have hmarkIgnore : ∀ b, (markIf b metadata).ignoreDestinationIPCIDRMatch =
      metadata.ignoreDestinationIPCIDRMatch := by
    intro b
    cases b <;> rfl
  have hmarkDid : ∀ b, (markIf b metadata).didMatch = (metadata.didMatch || b) := by
    intro b
    cases b <;> simp [markIf, InboundContext.setDidMatch]
  rw [hmarkIgnore, hmarkDid]
  cases hign : metadata.ignoreDestinationIPCIDRMatch with
  | false => rfl
  | true =>
    have hempty : r.onlyIPCIDR → r.positiveStates none metadata 0#4 = emptyRuleMatchState :=
      positiveStates_of_onlyIPCIDR hign
    rw [onlyIPCIDR_eq hign] at hempty ⊢
    grind

lemma finish_eq (r : AbstractDefaultRule) (states : RuleMatchState → RuleMatchStateSet)
    {deferred deferred' : Bool} (base : RuleMatchState)
    (hdeferred : r.invert → deferred = deferred') :
    (if (states (if r.invert then 0#4 else base)).isEmpty then r.invertedFailure base
      else if r.invert then
        if deferred then emptyRuleMatchState.withBase base else .noMatch
      else states (if r.invert then 0#4 else base)) =
    if r.invert then
    if (states 0#4).isEmpty || deferred' then emptyRuleMatchState.withBase base else .noMatch
    else states base := by
  cases hi : r.invert with
  | true =>
    cases hemp : (states 0#4).isEmpty <;> simp [invertedFailure, hi, hemp, hdeferred hi]
  | false =>
    cases hemp : (states base).isEmpty with
    | true => simp [invertedFailure, hi, eq_noMatch_of_isEmpty hemp]
    | false => simp [hemp]

lemma matchStatesWithBase_eq
    (ruleSetStates : Option (InboundContext → RuleMatchState → RuleMatchStateSet))
    (base : RuleMatchState) :
    r.matchStatesWithBase ruleSetStates metadata base = if r.invert then
    if r.invertedMatches ruleSetStates metadata then emptyRuleMatchState.withBase base
    else .noMatch
    else r.positiveStates ruleSetStates metadata base := by
  by_cases hcnt : (r.itemCount = 0 && ruleSetStates.isNone)
  · obtain ⟨hzero, rfl⟩ : r.itemCount = 0 ∧ ruleSetStates = none := by simpa using hcnt
    rw [matchStatesWithBase, if_pos hcnt, invertedMatches, hcnt]
    simp [positiveStates_of_itemCount _ hzero]
  · rw [matchStatesWithBase, if_neg hcnt]
    simp only [matchGroups_eq, matchItems_eq, match_markIf]
    by_cases hitems : r.items.all fun item => item.match metadata
    · have hpos : ∀ b, r.positiveStates ruleSetStates metadata b = (match ruleSetStates with
            | some states => states metadata.setDidMatch (b ||| r.groupBits metadata)
            | none => singleRuleMatchState (b ||| r.groupBits metadata)).filter
              (r.stateAllowed metadata) := by
        intro b
        unfold positiveStates otherItemsMatch
        rw [if_pos hitems]
        congr 1
        funext state
        exact (stateAllowed_eq r metadata state).symm
      rw [if_pos hitems]
      simp only [invertedMatches, hcnt, Bool.false_or]
      cases ruleSetStates with
      | none =>
        simp only [markIf_markIf, stateAllowed_markIf, ← hpos]
        apply finish_eq r (r.positiveStates none metadata) base
        intro hi
        rw [if_pos hi, deferred_eq, Option.isNone_none, Bool.and_true]
      | some states =>
        simp only [setDidMatch_markIf, stateAllowed_setDidMatch, ← hpos]
        apply finish_eq r (r.positiveStates (some states) metadata) base
        intro _
        simp [InboundContext.setDidMatch]
    · have hemp : ∀ b, r.positiveStates ruleSetStates metadata b = .noMatch := by
        intro b
        unfold positiveStates otherItemsMatch
        rw [if_neg hitems]
      rw [if_neg hitems]
      simp [invertedFailure, invertedMatches, hemp]

end AbstractDefaultRule

/-! ### Lists of rules -/

variable (rules : List HeadlessRule) (metadata : InboundContext) (base : RuleMatchState)
  (acc : RuleMatchStateSet) (x : RuleMatchState)

lemma contains_matchAnyRule : (matchAnyRule rules metadata base acc).contains x ↔ acc.contains x ∨
    ∃ rule ∈ rules, (rule.matchStatesWithBase metadata.resetRuleCache base).contains x := by
  induction rules generalizing acc with
  | nil => simp [matchAnyRule]
  | cons rule rules ih =>
    rw [matchAnyRule, ih]
    simp [or_assoc]

lemma contains_matchAnyBranch : (matchAnyBranch rules metadata base acc).contains x ↔
    acc.contains x ∨ ∃ rule ∈ rules,
    (rule.matchStatesWithBase metadata.resetRuleMatchCache base).contains x := by
  induction rules generalizing acc with
  | nil => simp [matchAnyBranch]
  | cons rule rules ih =>
    rw [matchAnyBranch, ih]
    simp [or_assoc]

lemma contains_matchAnyRuleSet (setList : List (RuleSet HeadlessRule)) :
    (matchAnyRuleSet setList metadata base acc).contains x ↔
    acc.contains x ∨ ∃ ruleSet ∈ setList, ∃ branch ∈ ruleSet.rules,
    (branch.matchStatesWithBase metadata.resetRuleMatchCache base).contains x := by
  induction setList generalizing acc with
  | nil => simp [matchAnyRuleSet]
  | cons ruleSet setList ih =>
    rw [matchAnyRuleSet, ih]
    obtain ⟨tag, rules, ruleSetMetadata⟩ := ruleSet
    simp [RuleSet.matchStatesWithBase, contains_matchAnyBranch, or_assoc]

variable (item : RuleSetItem HeadlessRule)

def RuleSetItem.branchMetadata (metadata : InboundContext) : InboundContext :=
  ruleSetMetadata item.ipCidrMatchSource item.ipCidrAcceptEmpty metadata

@[simp] lemma RuleSetItem.branchMetadata_setDidMatch :
    item.branchMetadata metadata.setDidMatch = item.branchMetadata metadata := rfl

lemma RuleSetItem.contains_matchStatesWithBase :
    (item.matchStatesWithBase metadata base).contains x ↔
    ∃ ruleSet ∈ item.setList, ∃ branch ∈ ruleSet.rules,
    (branch.matchStatesWithBase (item.branchMetadata metadata) base).contains x := by
  obtain ⟨setList, ipCidrMatchSource, ipCidrAcceptEmpty⟩ := item
  have hreset : (ruleSetMetadata ipCidrMatchSource ipCidrAcceptEmpty metadata).resetRuleMatchCache =
      ruleSetMetadata ipCidrMatchSource ipCidrAcceptEmpty metadata := rfl
  rw [RuleSetItem.matchStatesWithBase, contains_matchAnyRuleSet, hreset]
  simp [branchMetadata]

lemma isSome_matchAllRules : (matchAllRules rules metadata base acc).isSome ↔
    ∀ rule ∈ rules, (rule.matchStatesWithBase metadata.resetRuleCache base).isEmpty = false := by
  induction rules generalizing acc with
  | nil => simp [matchAllRules]
  | cons rule rules ih =>
    rw [matchAllRules]
    cases hemp : (rule.matchStatesWithBase metadata.resetRuleCache base).isEmpty with
    | true => simp [hemp]
    | false => simp [hemp, ih]

lemma isEmpty_matchAllRules {rules : List HeadlessRule} {metadata : InboundContext}
    {base : RuleMatchState} {acc S : RuleMatchStateSet} (hacc : acc.isEmpty = false)
    (h : matchAllRules rules metadata base acc = some S) : S.isEmpty = false := by
  induction rules generalizing acc with
  | nil =>
    obtain rfl : acc = S := by simpa [matchAllRules] using h
    exact hacc
  | cons rule rules ih =>
    rw [matchAllRules] at h
    cases hemp : (rule.matchStatesWithBase metadata.resetRuleCache base).isEmpty with
    | true => simp [hemp] at h
    | false =>
      have hcombine : (acc.combine
          (rule.matchStatesWithBase metadata.resetRuleCache base)).isEmpty = false := by
        rw [isEmpty_combine, hacc, hemp, Bool.or_false]
      exact ih hcombine (by simpa [hemp] using h)

def HeadlessRule.ruleSetStates (ruleSetItem : Option (RuleSetItem HeadlessRule)) :
    Option (InboundContext → RuleMatchState → RuleMatchStateSet) :=
  ruleSetItem.map fun item metadata base => item.matchStatesWithBase metadata base

lemma HeadlessRule.matchStatesWithBase_default (rule : AbstractDefaultRule)
    (ruleSetItem : Option (RuleSetItem HeadlessRule)) :
    (default rule ruleSetItem).matchStatesWithBase metadata base =
    rule.matchStatesWithBase (ruleSetStates ruleSetItem) metadata base := by
  cases ruleSetItem <;> rw [matchStatesWithBase] <;> rfl

lemma HeadlessRule.matchStatesWithBase_and :
    (logical rules .and false).matchStatesWithBase metadata base =
    (matchAllRules rules metadata base (emptyRuleMatchState.withBase base)).getD .noMatch := by
  rw [matchStatesWithBase]
  cases hall : matchAllRules rules metadata base (emptyRuleMatchState.withBase base) <;>
    simp [logicalFailure, hall]

lemma HeadlessRule.matchStatesWithBase_or :
    (logical rules .or false).matchStatesWithBase metadata base =
    matchAnyRule rules metadata base .noMatch := by
  rw [matchStatesWithBase]
  cases hemp : (matchAnyRule rules metadata base .noMatch).isEmpty with
  | true => simp [logicalFailure, eq_noMatch_of_isEmpty hemp]
  | false => simp [hemp]

variable (mode : LogicalMode)

lemma HeadlessRule.matchStatesWithBase_logical_invert :
    (logical rules mode true).matchStatesWithBase metadata base =
    if ((logical rules mode false).matchStatesWithBase metadata 0#4).isEmpty then
    emptyRuleMatchState.withBase base
    else .noMatch := by
  cases mode with
  | and =>
    rw [matchStatesWithBase_and, matchStatesWithBase]
    cases hall : matchAllRules rules metadata 0#4 (emptyRuleMatchState.withBase 0#4) with
    | none => simp [logicalFailure, hall]
    | some S =>
      have hS := isEmpty_matchAllRules (isEmpty_emptyRuleMatchState_withBase 0#4) hall
      simp [hall, hS]
  | or =>
    rw [matchStatesWithBase_or, matchStatesWithBase]
    simp [logicalFailure]

lemma HeadlessRule.isEmpty_logical (invert : Bool) (metadata : InboundContext) :
    (!((logical rules mode invert).matchStatesWithBase metadata 0#4).isEmpty) = ((match mode with
        | .and => rules.all fun rule =>
          !(rule.matchStatesWithBase metadata.resetRuleCache 0#4).isEmpty
        | .or => rules.any fun rule =>
          !(rule.matchStatesWithBase metadata.resetRuleCache 0#4).isEmpty) != invert) := by
  have hpos : (!((logical rules mode false).matchStatesWithBase metadata
      0#4).isEmpty) = match mode with
        | .and => rules.all fun rule =>
          !(rule.matchStatesWithBase metadata.resetRuleCache 0#4).isEmpty
        | .or => rules.any fun rule =>
          !(rule.matchStatesWithBase metadata.resetRuleCache 0#4).isEmpty := by
    cases mode with
    | and =>
      rw [matchStatesWithBase_and, Bool.eq_iff_iff]
      have hsome := isSome_matchAllRules rules metadata 0#4 (emptyRuleMatchState.withBase 0#4)
      cases hall : matchAllRules rules metadata 0#4 (emptyRuleMatchState.withBase 0#4) with
      | none => simpa [hall] using hsome
      | some S =>
        have hS := isEmpty_matchAllRules (isEmpty_emptyRuleMatchState_withBase 0#4) hall
        simpa [hall, hS] using hsome
    | or =>
      rw [matchStatesWithBase_or, Bool.eq_iff_iff, Bool.not_eq_true', isEmpty_eq_false_iff]
      simp only [contains_matchAnyRule, List.any_eq_true, Bool.not_eq_true', isEmpty_eq_false_iff,
        contains_noMatch, Bool.false_eq_true, false_or]
      exact ⟨fun ⟨x, rule, hmem, hx⟩ => ⟨rule, hmem, x, hx⟩,
        fun ⟨rule, hmem, x, hx⟩ => ⟨x, rule, hmem, hx⟩⟩
  cases invert with
  | false => rw [hpos, Bool.bne_false]
  | true =>
    rw [matchStatesWithBase_logical_invert, ← hpos]
    split <;> simp [*]

lemma AbstractDefaultRule.contains_positiveStates_none (r : AbstractDefaultRule) :
    (r.positiveStates none metadata base).contains x ↔
    r.otherItemsMatch metadata ∧ Subset (r.requiredBits metadata) x ∧
    x = base ||| r.groupBits metadata := by
  unfold positiveStates
  cases r.otherItemsMatch metadata <;> simp [and_comm]

lemma AbstractDefaultRule.contains_positiveStates_some (r : AbstractDefaultRule) :
    (r.positiveStates (ruleSetStates (some item)) metadata base).contains x ↔
    r.otherItemsMatch metadata ∧ Subset (r.requiredBits metadata) x ∧
    ∃ ruleSet ∈ item.setList, ∃ branch ∈ ruleSet.rules,
    (branch.matchStatesWithBase (item.branchMetadata metadata)
            (base ||| r.groupBits metadata)).contains x := by
  unfold positiveStates ruleSetStates
  cases r.otherItemsMatch metadata <;> simp [RuleSetItem.contains_matchStatesWithBase, and_comm]

/-! ### Rearranging rules -/

lemma combine_comm (s t : RuleMatchStateSet) : s.combine t = t.combine s := by
  apply ext_contains
  intro x
  rw [contains_combine, contains_combine]
  constructor <;> exact fun ⟨a, b, ha, hb, hx⟩ => ⟨b, a, hb, ha, hx ▸ BitVec.or_comm ..⟩

lemma combine_right_comm (s t u : RuleMatchStateSet) :
    (s.combine t).combine u = (s.combine u).combine t := by
  apply ext_contains
  intro x
  simp only [contains_combine]
  constructor <;> rintro ⟨_, z, ⟨a, b, ha, hb, rfl⟩, hz, rfl⟩ <;>
    exact ⟨_, _, ⟨a, z, ha, hz, rfl⟩, hb, by ac_rfl⟩

section

variable {rules rules' : List HeadlessRule} (h : rules.Perm rules') (metadata : InboundContext)
  (base : RuleMatchState)
include h

lemma matchAllRules_perm (acc : RuleMatchStateSet) :
    matchAllRules rules metadata base acc = matchAllRules rules' metadata base acc := by
  induction h generalizing acc with
  | nil => rfl
  | cons rule _ ih => simp only [matchAllRules, ih]
  | swap rule rule' rules =>
    simp only [matchAllRules, combine_right_comm acc]
    split_ifs <;> rfl
  | trans _ _ ih₁ ih₂ => rw [ih₁, ih₂]

/-- The order of the children of a logical rule does not matter. -/
theorem matchStatesWithBase_perm (mode : LogicalMode) (invert : Bool) :
    (logical rules mode invert).matchStatesWithBase metadata base =
    (logical rules' mode invert).matchStatesWithBase metadata base := by
  cases mode with
  | and => rw [matchStatesWithBase, matchStatesWithBase, matchAllRules_perm h]
  | or =>
    have hany : ∀ base, matchAnyRule rules metadata base .noMatch =
        matchAnyRule rules' metadata base .noMatch := by
      intro base
      apply ext_contains
      intro x
      simp only [contains_matchAnyRule, h.mem_iff]
    rw [matchStatesWithBase, matchStatesWithBase, hany]

end

theorem matchStatesWithBase_perm_swap :
    let first : HeadlessRule := .default { destinationPortItems := [.port false [443]] } none
    let second := logical [.default { items := [.network ["udp"]] } none,
      .default { sourcePortItems := [.port true [53]] } none] .or true
    let metadata : InboundContext := { network := "tcp", destination := { port := 443 } }
    (logical [first, second] .and false).matchStatesWithBase metadata 0#4 =
        (logical [second, first] .and false).matchStatesWithBase metadata 0#4 ∧
      ((logical [second, first] .and false).matchStatesWithBase metadata 0#4).contains 8#4 :=
  ⟨matchStatesWithBase_perm (.swap ..) .., by decide +kernel⟩

@[simp] lemma resetRuleCache_resetRuleCache :
    metadata.resetRuleCache.resetRuleCache = metadata.resetRuleCache := rfl

lemma matchAllRules_append (rules' : List HeadlessRule) :
    matchAllRules (rules ++ rules') metadata base acc =
    (matchAllRules rules metadata.resetRuleCache base acc).bind
    (matchAllRules rules' metadata base) := by
  induction rules generalizing acc with
  | nil => simp [matchAllRules]
  | cons rule rules ih =>
    rw [List.cons_append, matchAllRules, matchAllRules]
    cases h : (rule.matchStatesWithBase metadata.resetRuleCache base).isEmpty <;> simp [h, ih]

variable {rules metadata base acc} {first S : RuleMatchStateSet}

lemma combine_of_matchAllRules (hacc : acc.combine first = acc)
    (h : matchAllRules rules metadata base acc = some S) : S.combine first = S := by
  induction rules generalizing acc with
  | nil =>
    obtain rfl : acc = S := by simpa [matchAllRules] using h
    exact hacc
  | cons rule rules ih =>
    rw [matchAllRules] at h
    split_ifs at h
    exact ih (by rw [combine_right_comm, hacc]) h

lemma matchAllRules_and_cons (hfirst : first = emptyRuleMatchState.withBase base)
    (inner rest : List HeadlessRule) :
    matchAllRules (logical inner .and false :: rest) metadata base first =
    matchAllRules (inner ++ rest) metadata base first := by
  rw [matchAllRules, matchStatesWithBase_and, matchAllRules_append, ← hfirst]
  cases h : matchAllRules inner metadata.resetRuleCache base first with
  | none => simp
  | some S =>
    have hself : first.combine first = first := by
      refine ext_contains fun x => ?_
      rw [contains_combine]
      simp [hfirst]
    have hS : S.isEmpty = false := isEmpty_matchAllRules (by simp [hfirst]) h
    simp [hS, combine_comm _ S, combine_of_matchAllRules hself h]

/-- A logical rule in one of the same mode is like its children in its place. -/
theorem matchStatesWithBase_flatten (before inner after : List HeadlessRule) (invert : Bool) :
    (logical (before ++ logical inner mode false :: after) mode invert).matchStatesWithBase
      metadata base =
    (logical (before ++ (inner ++ after)) mode invert).matchStatesWithBase metadata base := by
  cases mode with
  | and =>
    have hall (base) : matchAllRules (before ++ logical inner .and false :: after) metadata base
        (emptyRuleMatchState.withBase base) = matchAllRules (before ++ (inner ++ after)) metadata
        base (emptyRuleMatchState.withBase base) := by
      rw [matchAllRules_perm List.perm_middle, matchAllRules_and_cons rfl]
      exact matchAllRules_perm (List.perm_append_comm_assoc ..) ..
    rw [matchStatesWithBase, matchStatesWithBase, hall]
  | or =>
    have hany (base) : matchAnyRule (before ++ logical inner .or false :: after) metadata base
        .noMatch = matchAnyRule (before ++ (inner ++ after)) metadata base .noMatch := by
      refine ext_contains fun x => ?_
      simp [contains_matchAnyRule, matchStatesWithBase_or, or_and_right, exists_or]
    rw [matchStatesWithBase, matchStatesWithBase, hany]

/-- An inverted logical rule is one of the other mode with its children inverted. -/
theorem match_logical_invert (rules : List HeadlessRule) (metadata : InboundContext) :
    (logical rules .and true).match metadata =
      (logical (rules.map (logical [·] .and true)) .or false).match metadata ∧
    (logical rules .or true).match metadata =
      (logical (rules.map (logical [·] .and true)) .and false).match metadata := by
  simp only [HeadlessRule.match, matchStates, isEmpty_logical, List.all_map, List.any_map]
  simp [Function.comp_def, isEmpty_logical, List.not_all_eq_any_not, List.not_any_eq_all_not]

/-- The rule-sets of an item are like one rule-set with all their rules. -/
theorem RuleSetItem.matchStatesWithBase_flatMap (setList : List (RuleSet HeadlessRule))
    (ipCidrMatchSource ipCidrAcceptEmpty : Bool) (ruleSet : RuleSet HeadlessRule)
    (metadata : InboundContext) (base : RuleMatchState) :
    RuleSetItem.matchStatesWithBase ⟨setList, ipCidrMatchSource, ipCidrAcceptEmpty⟩ metadata base =
    RuleSetItem.matchStatesWithBase
    ⟨[{ ruleSet with rules := setList.flatMap (·.rules) }], ipCidrMatchSource,
          ipCidrAcceptEmpty⟩ metadata base := by
  apply ext_contains
  intro x
  simp only [RuleSetItem.contains_matchStatesWithBase, RuleSetItem.branchMetadata,
    List.mem_singleton, exists_eq_left, List.mem_flatMap]
  exact ⟨fun ⟨ruleSet, hset, branch, hmem, hx⟩ => ⟨branch, ⟨ruleSet, hset, hmem⟩, hx⟩,
    fun ⟨branch, ⟨ruleSet, hset, hmem⟩, hx⟩ => ⟨ruleSet, hset, branch, hmem, hx⟩⟩

end SingBox
