import SingBox.Lib.Grouped
import SingBox.Rule.Groups

/-!
# The boolean reading of rules

Addresses and ports are four groups of alternatives, and all other items are required.
-/

namespace SingBox
open RuleMatchState RuleMatchStateSet HeadlessRule Grouped

/-! ### Groups as conditions -/

inductive Group where
  | sourceAddress
  | sourcePort
  | destinationAddress
  | destinationPort
  deriving DecidableEq

instance : Fintype Group :=
  ⟨{.sourceAddress, .sourcePort, .destinationAddress, .destinationPort},
    fun g => by cases g <;> decide⟩

def Group.bit : Group → RuleMatchState
  | sourceAddress => ruleMatchSourceAddress
  | sourcePort => ruleMatchSourcePort
  | destinationAddress => ruleMatchDestinationAddress
  | destinationPort => ruleMatchDestinationPort

lemma subset_iff_groups (s t : RuleMatchState) :
    Subset s t ↔ ∀ g : Group, s.has g.bit → t.has g.bit := by
  revert s t
  decide +kernel

lemma has_or (s t : RuleMatchState) (g : Group) :
    (s ||| t).has g.bit = (s.has g.bit || t.has g.bit) := by
  revert s t g
  decide +kernel

lemma has_bits (b₁ b₂ b₃ b₄ : Bool) (g : Group) :
    (bitIf b₁ ruleMatchSourceAddress ||| bitIf b₂ ruleMatchSourcePort |||
      bitIf b₃ ruleMatchDestinationAddress ||| bitIf b₄ ruleMatchDestinationPort).has g.bit =
        match g with
        | .sourceAddress => b₁
        | .sourcePort => b₂
        | .destinationAddress => b₃
        | .destinationPort => b₄ := by
  revert b₁ b₂ b₃ b₄ g
  decide +kernel

namespace AbstractDefaultRule
variable (r : AbstractDefaultRule) (ignore matchSource : Bool)

/-- The items of the groups; `ip_cidr` items move or are left out. -/
def groupItems : Group → List RuleItem
  | .sourceAddress =>
    r.sourceAddressItems ++ if !ignore && matchSource then r.destinationIPCIDRItems else []
  | .sourcePort => r.sourcePortItems
  | .destinationAddress =>
    r.destinationAddressItems ++ if !ignore && !matchSource then r.destinationIPCIDRItems else []
  | .destinationPort => r.destinationPortItems

def grouped : Grouped Group InboundContext where
  group g := (r.groupItems ignore matchSource g).map fun item => item.match
  others := r.items.map fun item => item.match

variable (metadata : InboundContext)

def conditions : Grouped Group InboundContext :=
  r.grouped metadata.ignoreDestinationIPCIDRMatch metadata.ipCIDRMatchSource

variable (g : Group)
variable (metadata : InboundContext)

lemma satisfied_grouped :
    (r.grouped ignore matchSource).satisfied g metadata =
    matchAnyItem (r.groupItems ignore matchSource g) metadata := by
  simp [satisfied, grouped, matchAnyItem, List.any_map, Function.comp_def]

lemma present_grouped :
    (r.grouped ignore matchSource).present g = !(r.groupItems ignore matchSource g).isEmpty := by
  simp [present, grouped]

lemma othersHold_grouped :
    (r.grouped ignore matchSource).othersHold metadata = r.otherItemsMatch metadata := by
  simp [othersHold, grouped, otherItemsMatch, List.all_map, Function.comp_def]

lemma matchAnyItem_append_ite (items more : List RuleItem) (b : Bool) :
    matchAnyItem (items ++ if b then more else []) metadata =
    (matchAnyItem items metadata || b && !more.isEmpty && matchAnyItem more metadata) := by
  cases b <;> cases more <;> simp [matchAnyItem]

lemma isEmpty_append_ite (items more : List RuleItem) (b : Bool) :
    (!(items ++ if b then more else []).isEmpty) = (!items.isEmpty || b && !more.isEmpty) := by
  cases b <;> cases items <;> cases more <;> rfl

lemma has_groupBits :
    (r.groupBits metadata).has g.bit = (r.conditions metadata).satisfied g metadata := by
  rw [groupBits, has_bits, conditions, satisfied_grouped]
  cases g with
  | sourcePort | destinationPort => rfl
  | sourceAddress | destinationAddress => exact (matchAnyItem_append_ite ..).symm

lemma has_requiredBits :
    (r.requiredBits metadata).has g.bit = (r.conditions metadata).present g := by
  rw [requiredBits, has_bits, conditions, present_grouped]
  cases g with
  | sourcePort | destinationPort => rfl
  | sourceAddress | destinationAddress => exact (isEmpty_append_ite ..).symm

lemma isEmpty_positiveStates_none :
    (r.positiveStates none metadata 0#4).isEmpty = false ↔
    (r.conditions metadata).Holds metadata := by
  have hsubset : Subset (r.requiredBits metadata) (r.groupBits metadata) ↔
      ∀ g, (r.conditions metadata).present g →
        (r.conditions metadata).satisfied g metadata := by
    simp [subset_iff_groups, has_requiredBits, has_groupBits]
  rw [isEmpty_eq_false_iff, Grouped.Holds, ← hsubset, conditions, othersHold_grouped]
  simp only [contains_positiveStates_none, BitVec.zero_or]
  constructor
  · rintro ⟨x, hitems, hsub, rfl⟩
    exact ⟨hsub, hitems⟩
  · rintro ⟨hsub, hitems⟩
    exact ⟨_, hitems, hsub, rfl⟩

/-- Without conditions for now, an inverted rule lets everything pass. -/
def reading : Bool :=
  if r.invert then
    !decide ((r.conditions metadata).Holds metadata) ||
      (metadata.ignoreDestinationIPCIDRMatch && !metadata.didMatch && r.onlyIPCIDR)
  else decide ((r.conditions metadata).Holds metadata)

def plainReading : Bool :=
  decide ((r.grouped false false).Holds metadata) != r.invert

lemma isEmpty_matchStatesWithBase_none (hitems : r.itemCount ≠ 0) (metadata : InboundContext) :
    (!(r.matchStatesWithBase none metadata 0#4).isEmpty) = r.reading metadata := by
  have hpos : (r.positiveStates none metadata 0#4).isEmpty =
      !decide ((r.conditions metadata).Holds metadata) := by
    cases hemp : (r.positiveStates none metadata 0#4).isEmpty with
    | true | false => simp [← isEmpty_positiveStates_none, hemp]
  rw [matchStatesWithBase_eq, invertedMatches, reading]
  cases r.invert with
  | false => simp [hpos]
  | true =>
    simp only [hitems, hpos, Option.isNone_none, decide_false, Bool.false_or,
      Bool.and_true, if_true]
    split
    · simp [*]
    · simp [*]

end AbstractDefaultRule

mutual

/-- The boolean value of a tree, for given values of its default rules. -/
def HeadlessRule.eval (leaf : AbstractDefaultRule → Bool) : HeadlessRule → Bool
  | .default rule _ => leaf rule
  | .logical rules .and invert => evalAll leaf rules != invert
  | .logical rules .or invert => evalAny leaf rules != invert

def evalAll (leaf : AbstractDefaultRule → Bool) : List HeadlessRule → Bool
  | [] => true
  | rule :: rules => HeadlessRule.eval leaf rule && evalAll leaf rules

def evalAny (leaf : AbstractDefaultRule → Bool) : List HeadlessRule → Bool
  | [] => false
  | rule :: rules => HeadlessRule.eval leaf rule || evalAny leaf rules

end

variable (leaf : AbstractDefaultRule → Bool) (rules : List HeadlessRule)

lemma evalAll_eq : evalAll leaf rules = rules.all fun rule => rule.eval leaf := by
  induction rules with
  | nil => rfl
  | cons rule rules ih => rw [evalAll, ih, List.all_cons]

lemma evalAny_eq : evalAny leaf rules = rules.any fun rule => rule.eval leaf := by
  induction rules with
  | nil => rfl
  | cons rule rules ih => rw [evalAny, ih, List.any_cons]

mutual

def HeadlessRule.isPlain : HeadlessRule → Bool
  | .default rule ruleSetItem => rule.itemCount != 0 && ruleSetItem.isNone
  | .logical rules _ _ => allPlain rules

def allPlain : List HeadlessRule → Bool
  | [] => true
  | rule :: rules => HeadlessRule.isPlain rule && allPlain rules

end

/-! ### Trees of rules -/

lemma allPlain_iff : allPlain rules ↔ ∀ rule ∈ rules, rule.isPlain := by
  induction rules with
  | nil => simp [allPlain]
  | cons rule rules ih => simp [allPlain, ih]

/-- Below a logical rule the rule cache is reset. -/
def HeadlessRule.reading : HeadlessRule → InboundContext → Bool
  | .default rule _, metadata => rule.reading metadata
  | .logical rules mode invert, metadata =>
    (logical rules mode invert).eval fun rule => rule.reading metadata.resetRuleCache

variable (rule : HeadlessRule)

lemma HeadlessRule.reading_resetRuleCache (metadata : InboundContext) :
    rule.reading metadata.resetRuleCache =
    rule.eval fun rule => rule.reading metadata.resetRuleCache := by
  cases rule with
  | default rule ruleSetItem => rw [reading, eval]
  | logical rules mode invert => rfl

lemma HeadlessRule.match_eq_reading_of_isPlain (h : rule.isPlain)
    (metadata : InboundContext) : rule.match metadata = rule.reading metadata := by
  unfold HeadlessRule.match HeadlessRule.matchStates
  induction rule using induct generalizing metadata with
  | default rule ruleSetItem _ =>
    obtain ⟨hitems, rfl⟩ : rule.itemCount ≠ 0 ∧ ruleSetItem = none := by
      simpa [isPlain] using h
    rw [matchStatesWithBase_default]
    exact rule.isEmpty_matchStatesWithBase_none hitems metadata
  | logical rules mode invert ih =>
    have hplain : ∀ rule ∈ rules, rule.isPlain := by
      rwa [isPlain, allPlain_iff] at h
    have hchild : ∀ rule ∈ rules,
        (!(rule.matchStatesWithBase metadata.resetRuleCache 0#4).isEmpty) =
          rule.eval fun rule => rule.reading metadata.resetRuleCache := by
      intro rule hmem
      rw [← reading_resetRuleCache]
      exact ih rule hmem (hplain rule hmem) metadata.resetRuleCache
    rw [isEmpty_logical]
    cases mode with
    | and =>
      rw [reading, eval, evalAll_eq]
      congr 1
      rw [Bool.eq_iff_iff, List.all_eq_true, List.all_eq_true]
      exact forall₂_congr fun rule hmem => by rw [hchild rule hmem]
    | or =>
      rw [reading, eval, evalAny_eq]
      congr 1
      rw [Bool.eq_iff_iff, List.any_eq_true, List.any_eq_true]
      exact exists_congr fun rule => and_congr_right fun hmem => by rw [hchild rule hmem]

variable (r : AbstractDefaultRule) (metadata : InboundContext)

lemma AbstractDefaultRule.reading_eq_plainReading
    (hign : metadata.ignoreDestinationIPCIDRMatch = false)
    (hsrc : metadata.ipCIDRMatchSource = false) :
    r.reading metadata = r.plainReading metadata := by
  rw [reading, plainReading, conditions, hign, hsrc]
  cases r.invert <;> simp

lemma AbstractDefaultRule.plainReading_resetRuleMatchCache :
    r.plainReading metadata.resetRuleMatchCache = r.plainReading metadata := by
  have hholds : (r.grouped false false).Holds metadata.resetRuleMatchCache ↔
      (r.grouped false false).Holds metadata := by
    simp only [Grouped.Holds, satisfied_grouped, othersHold_grouped, matchAnyItem, otherItemsMatch,
      RuleItem.match_resetRuleMatchCache]
  simp [plainReading, hholds]

/-- Without rule-set items the evaluation is the boolean reading. -/
theorem match_eq_reading (rule : HeadlessRule) (h : rule.isPlain = true)
    (metadata : InboundContext) :
    rule.match metadata = rule.reading metadata ∧
      (metadata.ignoreDestinationIPCIDRMatch = false → metadata.ipCIDRMatchSource = false →
        metadata.ipCIDRAcceptEmpty = false →
          rule.match metadata = rule.eval fun rule => rule.plainReading metadata) := by
  have hreading := rule.match_eq_reading_of_isPlain h metadata
  refine ⟨hreading, ?_⟩
  intro hign hsrc hemp
  have hreset : metadata.resetRuleCache = metadata.resetRuleMatchCache := by
    simp [InboundContext.resetRuleCache, InboundContext.resetRuleMatchCache, hsrc, hemp]
  rw [hreading]
  cases rule with
  | default rule ruleSetItem => exact rule.reading_eq_plainReading metadata hign hsrc
  | logical rules mode invert =>
    have hleaf : (fun rule : AbstractDefaultRule => rule.reading metadata.resetRuleCache) =
        fun rule => rule.plainReading metadata := by
      funext rule
      rw [hreset, rule.reading_eq_plainReading metadata.resetRuleMatchCache hign hsrc,
        rule.plainReading_resetRuleMatchCache]
    rw [reading, hleaf]

theorem match_eq_reading_port_and_version :
    (HeadlessRule.logical
      [.default { destinationPortItems := [.port false [53, 853]] } none,
        .default { items := [.ipVersion true], invert := true } none] .and false).match
        { destination := { port := 853 }, ipVersion := 4 } =
      (HeadlessRule.logical
        [.default { destinationPortItems := [.port false [53, 853]] } none,
          .default { items := [.ipVersion true], invert := true } none] .and false).eval
        fun rule => rule.plainReading { destination := { port := 853 }, ipVersion := 4 } :=
  (match_eq_reading _ (by decide) _).2 rfl rfl rfl

/-- While addresses are left out, an address alone does not match. -/
theorem match_ne_plainReading_of_ignore :
    ∃ (rule : HeadlessRule) (metadata : InboundContext), rule.isPlain = true ∧
      rule.match metadata ≠ rule.eval fun rule => rule.plainReading metadata := by
  refine ⟨.default
      { destinationAddressItems := [.domain fun host => host == "example.com"]
        destinationIPCIDRItems := [.ipCIDR false fun a => a == .v4 0xcb007101#32] } none,
    { destination := { addr := some (.v4 0xcb007101#32) }
      ignoreDestinationIPCIDRMatch := true }, ?_, ?_⟩
  · decide
  · decide

lemma AbstractDefaultRule.contains_branch (b : AbstractDefaultRule) (hi : b.invert = false)
    (metadata : InboundContext) (base x : RuleMatchState) :
    ((default b none).matchStatesWithBase metadata base).contains x ↔
    b.otherItemsMatch metadata ∧ Subset (b.requiredBits metadata) x ∧
    x = base ||| b.groupBits metadata := by
  rw [matchStatesWithBase_default, matchStatesWithBase_eq, hi]
  exact b.contains_positiveStates_none metadata base x

lemma AbstractDefaultRule.required_subset_iff (b : AbstractDefaultRule)
    (metadata metadata' : InboundContext) :
    (Subset (r.requiredBits metadata) (r.groupBits metadata ||| b.groupBits metadata') ∧
      Subset (b.requiredBits metadata') (r.groupBits metadata ||| b.groupBits metadata')) ↔
    ∀ g, ((r.conditions metadata).present g || (b.conditions metadata').present g) →
    ((r.conditions metadata).satisfied g metadata ||
          (b.conditions metadata').satisfied g metadata') := by
  simp only [subset_iff_groups, has_or, has_requiredBits, has_groupBits, ← forall_and]
  refine forall_congr' fun g => ?_
  rw [← or_imp, ← Bool.or_eq_true]

/-- A rule matches when some rule of some rule-set, merged into it, does: the groups are
concatenated. -/
theorem match_iff_merge (r : AbstractDefaultRule) (item : RuleSetItem HeadlessRule)
    (hinvert : r.invert = false)
    (hsets : ∀ ruleSet ∈ item.setList, ∀ branch ∈ ruleSet.rules,
      ∃ b : AbstractDefaultRule, b.invert = false ∧ branch = .default b none)
    (metadata : InboundContext) (hignore : metadata.ignoreDestinationIPCIDRMatch = false) :
    (default r (some item)).match metadata = true ↔
      ∃ ruleSet ∈ item.setList, ∃ b : AbstractDefaultRule,
        HeadlessRule.default b none ∈ ruleSet.rules ∧
          ((r.grouped false metadata.ipCIDRMatchSource).merge
            ((b.grouped false item.ipCidrMatchSource).comap item.branchMetadata)).Holds
              metadata := by
  have hr : r.grouped false metadata.ipCIDRMatchSource = r.conditions metadata := by
    rw [AbstractDefaultRule.conditions, hignore]
  have hb : ∀ b : AbstractDefaultRule, b.grouped false item.ipCidrMatchSource =
      b.conditions (item.branchMetadata metadata) := by
    intro b
    rw [AbstractDefaultRule.conditions,
      show (item.branchMetadata metadata).ignoreDestinationIPCIDRMatch = false from hignore]
    rfl
  have hmerge : ∀ b : AbstractDefaultRule,
      ((r.grouped false metadata.ipCIDRMatchSource).merge
        ((b.grouped false item.ipCidrMatchSource).comap item.branchMetadata)).Holds metadata ↔
      (Subset (r.requiredBits metadata)
          (r.groupBits metadata ||| b.groupBits (item.branchMetadata metadata)) ∧
        Subset (b.requiredBits (item.branchMetadata metadata))
          (r.groupBits metadata ||| b.groupBits (item.branchMetadata metadata))) ∧
        r.otherItemsMatch metadata = true ∧
          b.otherItemsMatch (item.branchMetadata metadata) = true := by
    intro b
    rw [holds_merge, AbstractDefaultRule.required_subset_iff]
    simp only [hr, hb, present_comap, satisfied_comap, othersHold_comap,
      AbstractDefaultRule.conditions, AbstractDefaultRule.othersHold_grouped]
  rw [HeadlessRule.match, HeadlessRule.matchStates, Bool.not_eq_true', isEmpty_eq_false_iff,
    matchStatesWithBase_default, AbstractDefaultRule.matchStatesWithBase_eq, hinvert]
  simp only [Bool.false_eq_true, if_false, AbstractDefaultRule.contains_positiveStates_some,
    BitVec.zero_or, hmerge]
  constructor
  · rintro ⟨x, hoth, hsub, ruleSet, hset, branch, hbranch, hx⟩
    obtain ⟨b, hbinvert, rfl⟩ := hsets ruleSet hset branch hbranch
    obtain ⟨hbother, hbsub, rfl⟩ := (b.contains_branch hbinvert ..).1 hx
    exact ⟨ruleSet, hset, b, hbranch, ⟨hsub, hbsub⟩, hoth, hbother⟩
  · rintro ⟨ruleSet, hset, b, hbranch, ⟨hsub, hbsub⟩, hoth, hbother⟩
    obtain ⟨b', hbinvert, hbb'⟩ := hsets ruleSet hset _ hbranch
    obtain rfl : b = b' := by simpa using hbb'
    exact ⟨_, hoth, hsub, ruleSet, hset, _, hbranch,
      (b.contains_branch hbinvert ..).2 ⟨hbother, hbsub, rfl⟩⟩

theorem match_iff_merge_port443 : ∃ ruleSet ∈ ([⟨"ports", [default
        { sourcePortItems := [.port true [53]] } none], {}⟩,
      ⟨"domains", [default
        { destinationAddressItems := [.domain fun host => host == "example.com"] } none],
        {}⟩] : List (RuleSet HeadlessRule)),
      ∃ b : AbstractDefaultRule, .default b none ∈ ruleSet.rules ∧
        ((AbstractDefaultRule.grouped { destinationPortItems := [.port false [443]] } false
            false).merge ((b.grouped false false).comap (ruleSetMetadata false false))).Holds
          { destination := { fqdn := "example.com", port := 443 } } :=
  (match_iff_merge { destinationPortItems := [.port false [443]] }
    { setList := [⟨"ports", [default
          { sourcePortItems := [.port true [53]] } none], {}⟩,
        ⟨"domains", [default
          { destinationAddressItems := [.domain fun host => host == "example.com"] } none], {}⟩]
      ipCidrMatchSource := false
      ipCidrAcceptEmpty := false }
    rfl (by simp) { destination := { fqdn := "example.com", port := 443 } } rfl).1 (by decide)

end SingBox
