import SingBox.Rule.Item
import SingBox.Rule.MatchState

/-!
# Default rules, logical rules and rule-sets

Route, DNS and headless rules embed default and logical rules, so one type `HeadlessRule` serves
all.
-/

namespace SingBox

inductive LogicalMode where
  | and
  | or
deriving DecidableEq

/-- The last six say that every item is in the list of its group. -/
structure AbstractDefaultRule where
  items : List RuleItem := []
  sourceAddressItems : List RuleItem := []
  sourcePortItems : List RuleItem := []
  destinationAddressItems : List RuleItem := []
  destinationIPCIDRItems : List RuleItem := []
  destinationPortItems : List RuleItem := []
  invert : Bool := false
  group_items : ∀ item ∈ items, item.group = .other := by simp [RuleItem.group]
  group_sourceAddressItems : ∀ item ∈ sourceAddressItems, item.group = .sourceAddress := by
    simp [RuleItem.group]
  group_sourcePortItems : ∀ item ∈ sourcePortItems, item.group = .sourcePort := by
    simp [RuleItem.group]
  group_destinationAddressItems :
      ∀ item ∈ destinationAddressItems, item.group = .destinationAddress := by
    simp [RuleItem.group]
  group_destinationIPCIDRItems :
      ∀ item ∈ destinationIPCIDRItems, item.group = .destinationIPCIDR := by
    simp [RuleItem.group]
  group_destinationPortItems : ∀ item ∈ destinationPortItems, item.group = .destinationPort := by
    simp [RuleItem.group]

structure RuleSetMetadata where
  containsProcessRule : Bool := false
  containsWIFIRule : Bool := false
  containsIPCIDRRule : Bool := false
  containsDNSQueryTypeRule : Bool := false
  containsNonIPCIDRRule : Bool := false
deriving DecidableEq

structure RuleSet (ρ : Type) where
  tag : String
  rules : List ρ
  metadata : RuleSetMetadata := {}

structure RuleSetItem (ρ : Type) where
  setList : List (RuleSet ρ)
  ipCidrMatchSource : Bool := false
  ipCidrAcceptEmpty : Bool := false

inductive HeadlessRule where
  | default (rule : AbstractDefaultRule) (ruleSetItem : Option (RuleSetItem HeadlessRule))
  | logical (rules : List HeadlessRule) (mode : LogicalMode) (invert : Bool)

def matchAnyItem (items : List RuleItem) (metadata : InboundContext) : Bool :=
  items.any fun it => it.match metadata

namespace AbstractDefaultRule
variable (r : AbstractDefaultRule)

def itemCount : ℕ := r.items.length + r.sourceAddressItems.length + r.sourcePortItems.length +
    r.destinationAddressItems.length + r.destinationIPCIDRItems.length +
      r.destinationPortItems.length

variable (metadata : InboundContext)

def destinationIPCIDRMatchesSource : Bool :=
  !metadata.ignoreDestinationIPCIDRMatch && metadata.ipCIDRMatchSource &&
    !r.destinationIPCIDRItems.isEmpty

def destinationIPCIDRMatchesDestination : Bool :=
  !metadata.ignoreDestinationIPCIDRMatch && !metadata.ipCIDRMatchSource &&
    !r.destinationIPCIDRItems.isEmpty

def requiresSourceAddressMatch : Bool :=
  !r.sourceAddressItems.isEmpty || r.destinationIPCIDRMatchesSource metadata

def requiresDestinationAddressMatch : Bool :=
  !r.destinationAddressItems.isEmpty || r.destinationIPCIDRMatchesDestination metadata

/-- An inverted rule matches if a condition fails, with the base. -/
def invertedFailure (base : RuleMatchState) : RuleMatchStateSet :=
  if r.invert then emptyRuleMatchState.withBase base else .noMatch

variable (present : Bool) (items : List RuleItem) (bit : RuleMatchState)
  (s : InboundContext × RuleMatchState)

/-- The metadata is marked, and `bit` added if an item matches. -/
def matchGroup : InboundContext × RuleMatchState :=
  if present then
    (s.1.setDidMatch, if matchAnyItem items s.1.setDidMatch then s.2 ||| bit else s.2)
  else s

/-- The items are not tried when the state already has the bit. -/
def matchIPCIDRGroup : InboundContext × RuleMatchState :=
  if present && !s.2.has bit then
    (s.1.setDidMatch, if matchAnyItem items s.1.setDidMatch then s.2 ||| bit else s.2)
  else if present then (s.1.setDidMatch, s.2)
  else s

def matchGroups (evaluationBase : RuleMatchState) : InboundContext × RuleMatchState :=
  let s := (metadata, evaluationBase)
  let s := matchGroup (!r.sourceAddressItems.isEmpty) r.sourceAddressItems ruleMatchSourceAddress s
  let s := matchIPCIDRGroup (r.destinationIPCIDRMatchesSource s.1) r.destinationIPCIDRItems
    ruleMatchSourceAddress s
  let s := matchGroup (!r.sourcePortItems.isEmpty) r.sourcePortItems ruleMatchSourcePort s
  let s := matchGroup (!r.destinationAddressItems.isEmpty) r.destinationAddressItems
    ruleMatchDestinationAddress s
  let s := matchIPCIDRGroup (r.destinationIPCIDRMatchesDestination s.1) r.destinationIPCIDRItems
    ruleMatchDestinationAddress s
  matchGroup (!r.destinationPortItems.isEmpty) r.destinationPortItems ruleMatchDestinationPort s

/-- Each marks the metadata, and one that fails ends it. -/
def matchItems : List RuleItem → InboundContext → Option InboundContext
  | [], metadata => some metadata
  | item :: items, metadata =>
    if item.match metadata.setDidMatch then matchItems items metadata.setDidMatch else none

def stateAllowed (state : RuleMatchState) : Bool :=
  if r.requiresSourceAddressMatch metadata && !state.has ruleMatchSourceAddress then false
  else if !r.sourcePortItems.isEmpty && !state.has ruleMatchSourcePort then false
  else if r.requiresDestinationAddressMatch metadata && !state.has ruleMatchDestinationAddress then
    false
  else if !r.destinationPortItems.isEmpty && !state.has ruleMatchDestinationPort then false
  else true

/-- The match states of a default rule. `ruleSetStates` is the evaluator of its rule-set item, if
it has one. -/
def matchStatesWithBase
    (ruleSetStates : Option (InboundContext → RuleMatchState → RuleMatchStateSet))
    (metadata : InboundContext) (inheritedBase : RuleMatchState) : RuleMatchStateSet :=
  if r.itemCount = 0 && ruleSetStates.isNone then emptyRuleMatchState.withBase inheritedBase
  else
    let evaluationBase := if r.invert then 0#4 else inheritedBase
    let (metadata, baseState) := r.matchGroups metadata evaluationBase
    match matchItems r.items metadata with
    | none => r.invertedFailure inheritedBase
    | some metadata =>
      let (metadata, stateSet) := match ruleSetStates with
        | some states => (metadata.setDidMatch, states metadata.setDidMatch baseState)
        | none => (metadata, singleRuleMatchState baseState)
      let stateSet := stateSet.filter (r.stateAllowed metadata)
      if stateSet.isEmpty then r.invertedFailure inheritedBase
      else if r.invert then
        if metadata.ignoreDestinationIPCIDRMatch && stateSet == emptyRuleMatchState &&
            !metadata.didMatch && !r.destinationIPCIDRItems.isEmpty then
          emptyRuleMatchState.withBase inheritedBase
        else .noMatch
      else stateSet

end AbstractDefaultRule

def logicalFailure (invert : Bool) (base : RuleMatchState) : RuleMatchStateSet :=
  if invert then emptyRuleMatchState.withBase base else .noMatch

def ruleSetMetadata (ipCidrMatchSource ipCidrAcceptEmpty : Bool) (metadata : InboundContext) :
    InboundContext :=
  { metadata.resetRuleMatchCache with
    ipCIDRMatchSource := ipCidrMatchSource
    ipCIDRAcceptEmpty := ipCidrAcceptEmpty }

mutual

def HeadlessRule.matchStatesWithBase :
    HeadlessRule → InboundContext → RuleMatchState → RuleMatchStateSet
  | .default rule none, metadata, base => rule.matchStatesWithBase none metadata base
  | .default rule (some ruleSetItem), metadata, base =>
    rule.matchStatesWithBase (some fun metadata base =>
      RuleSetItem.matchStatesWithBase ruleSetItem metadata base) metadata base
  | .logical rules .and invert, metadata, base =>
    let evaluationBase := if invert then 0#4 else base
    match matchAllRules rules metadata evaluationBase
        (emptyRuleMatchState.withBase evaluationBase) with
    | none => logicalFailure invert base
    | some stateSet => if invert then .noMatch else stateSet
  | .logical rules .or invert, metadata, base =>
    let evaluationBase := if invert then 0#4 else base
    let stateSet := matchAnyRule rules metadata evaluationBase .noMatch
    if stateSet.isEmpty then logicalFailure invert base
    else if invert then .noMatch
    else stateSet

/-- A child without states ends the logical *and* with `none`. -/
def matchAllRules : List HeadlessRule → InboundContext → RuleMatchState → RuleMatchStateSet →
      Option RuleMatchStateSet
  | [], _, _, stateSet => some stateSet
  | rule :: rules, metadata, evaluationBase, stateSet =>
    let nestedStateSet := HeadlessRule.matchStatesWithBase rule metadata.resetRuleCache
      evaluationBase
    if nestedStateSet.isEmpty then none
    else matchAllRules rules metadata evaluationBase (stateSet.combine nestedStateSet)

def matchAnyRule :
    List HeadlessRule → InboundContext → RuleMatchState → RuleMatchStateSet → RuleMatchStateSet
  | [], _, _, stateSet => stateSet
  | rule :: rules, metadata, evaluationBase, stateSet =>
    matchAnyRule rules metadata evaluationBase
      (stateSet.merge (HeadlessRule.matchStatesWithBase rule metadata.resetRuleCache
        evaluationBase))

def RuleSetItem.matchStatesWithBase :
    RuleSetItem HeadlessRule → InboundContext → RuleMatchState → RuleMatchStateSet
  | ⟨setList, ipCidrMatchSource, ipCidrAcceptEmpty⟩, metadata, base =>
    matchAnyRuleSet setList (ruleSetMetadata ipCidrMatchSource ipCidrAcceptEmpty metadata) base
      .noMatch

def matchAnyRuleSet :
    List (RuleSet HeadlessRule) → InboundContext → RuleMatchState → RuleMatchStateSet →
      RuleMatchStateSet
  | [], _, _, stateSet => stateSet
  | ruleSet :: setList, nestedMetadata, base, stateSet =>
    matchAnyRuleSet setList nestedMetadata base
      (stateSet.merge (RuleSet.matchStatesWithBase ruleSet nestedMetadata base))

def RuleSet.matchStatesWithBase :
    RuleSet HeadlessRule → InboundContext → RuleMatchState → RuleMatchStateSet
  | ⟨_, rules, _⟩, metadata, base => matchAnyBranch rules metadata base .noMatch

def matchAnyBranch :
    List HeadlessRule → InboundContext → RuleMatchState → RuleMatchStateSet → RuleMatchStateSet
  | [], _, _, stateSet => stateSet
  | rule :: rules, metadata, base, stateSet =>
    matchAnyBranch rules metadata base (stateSet.merge
        (HeadlessRule.matchStatesWithBase rule metadata.resetRuleMatchCache base))

end

variable (rule : HeadlessRule) (metadata : InboundContext)

def HeadlessRule.matchStates : RuleMatchStateSet := rule.matchStatesWithBase metadata 0#4

def HeadlessRule.match : Bool := !(rule.matchStates metadata).isEmpty

/-- Induction over rule trees, with the claim for the rules of the rule-sets and for the children.
-/
@[elab_as_elim] lemma HeadlessRule.induct {P : HeadlessRule → Prop}
    (default : ∀ rule ruleSetItem, (∀ item, ruleSetItem = some item →
      ∀ ruleSet ∈ item.setList, ∀ branch ∈ ruleSet.rules, P branch) →
      P (.default rule ruleSetItem))
    (logical : ∀ rules mode invert, (∀ rule ∈ rules, P rule) → P (.logical rules mode invert))
    (rule : HeadlessRule) : P rule := by
  -- The recursor of the nested type has one motive for each list the rules are nested in.
  refine @HeadlessRule.rec P (fun ruleSetItem => ∀ item, ruleSetItem = some item →
      ∀ ruleSet ∈ item.setList, ∀ branch ∈ ruleSet.rules, P branch)
    (fun rules => ∀ rule ∈ rules, P rule)
    (fun item => ∀ ruleSet ∈ item.setList, ∀ branch ∈ ruleSet.rules, P branch)
    (fun setList => ∀ ruleSet ∈ setList, ∀ branch ∈ ruleSet.rules, P branch)
    (fun ruleSet => ∀ branch ∈ ruleSet.rules, P branch)
    default logical ?_ ?_ ?_ ?_ ?_ ?_ ?_ ?_ rule
  · simp
  · rintro item hitem _ ⟨⟩
    exact hitem
  · simp
  · intro first rules hfst hrules rule hmem
    rcases List.mem_cons.1 hmem with rfl | hmem
    · exact hfst
    · exact hrules rule hmem
  · intro setList _ _ hsetList
    exact hsetList
  · simp
  · intro first setList hfst hsetList ruleSet hmem
    rcases List.mem_cons.1 hmem with rfl | hmem
    · exact hfst
    · exact hsetList ruleSet hmem
  · intro _ rules _ hrules
    exact hrules

end SingBox
