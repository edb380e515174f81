import SingBox.Lib.Codec
import SingBox.Rule.Headless

/-!
# Rules without conditions

A rule without items matches everything; items are made only for lists that are not empty.
-/

namespace SingBox
open Options Codec HeadlessRule
variable {lib : RuleLibrary} {manager : Option NetworkManager} {options : DefaultOptions lib}

def asksNetworkManager (options : DefaultOptions lib) : Bool :=
  options.networkType ≠ [] || options.networkIsExpensive || options.networkIsConstrained ||
    options.wifiSSID ≠ [] || options.wifiBSSID ≠ [] ||
    entriesOf options.networkInterfaceAddress ≠ [] || options.defaultInterfaceAddress ≠ []

def withoutNetworkManager (options : DefaultOptions lib) : DefaultOptions lib :=
  { options with
    networkType := []
    networkIsExpensive := false
    networkIsConstrained := false
    wifiSSID := []
    wifiBSSID := []
    networkInterfaceAddress := none
    defaultInterfaceAddress := [] }

lemma itemIf_eq_nil {present : Bool} {item : RuleItem} :
    itemIf present item = [] ↔ present = false := by
  cases present <;> simp [itemIf]

lemma networkItems_eq_nil :
    networkItems lib manager options = [] ↔
    manager = none ∨ asksNetworkManager options = false := by
  cases manager with
  | none => simp [networkItems]
  | some manager =>
    simp only [networkItems, List.append_eq_nil_iff, itemIf_eq_nil, asksNetworkManager,
      Bool.or_eq_false_iff, reduceCtorEq, false_or]

lemma newDomainItem_eq_none {domain : Option lib.Matcher}
    (h : newDomainItem lib options = .ok domain) :
    domain = none ↔
    options.domain = [] ∧ options.domainSuffix = [] ∧ options.domainMatcher = none := by
  unfold newDomainItem at h
  split_ifs at h with hlists <;> cases h <;> grind

lemma newIPCIDRItem_eq_none {value : List GoString} {set set' : Option IPSet}
    (h : newIPCIDRItem lib value set = .ok set') : set' = none ↔ value = [] ∧ set = none := by
  unfold newIPCIDRItem at h
  split_ifs at h with hval
  · obtain ⟨set, -, rfl⟩ := map_eq_ok h
    simp [hval]
  · cases h
    simp [not_not.1 hval]

lemma mapError_eq_ok {α : Type} {name : String} {result : Except String α} {a : α}
    (h : inField name result = .ok a) : result = .ok a := by
  cases result <;> cases h
  rfl

lemma itemCount_eq_zero {rule : AbstractDefaultRule}
    (h : newDefaultHeadlessRule lib manager options = .ok rule) :
    rule.itemCount = 0 ↔ (withoutNetworkManager options).isZero ∧
    (manager = none ∨ asksNetworkManager options = false) := by
  obtain ⟨fields, hfields, rfl⟩ := map_eq_ok h
  obtain ⟨domain, hdom, h⟩ := bind_eq_ok hfields
  obtain ⟨domainRegex, -, h⟩ := bind_eq_ok h
  obtain ⟨sourceIPSet, hsrc, h⟩ := bind_eq_ok h
  obtain ⟨ipSet, hset, h⟩ := bind_eq_ok h
  obtain ⟨sourcePortRange, -, h⟩ := bind_eq_ok h
  obtain ⟨portRange, -, h⟩ := bind_eq_ok h
  obtain ⟨processPathRegex, -, h⟩ := bind_eq_ok h
  obtain ⟨packageNameRegex, -, h⟩ := bind_eq_ok h
  cases h
  have hdom := newDomainItem_eq_none hdom
  have hsrc := newIPCIDRItem_eq_none (mapError_eq_ok hsrc)
  have hset := newIPCIDRItem_eq_none (mapError_eq_ok hset)
  have hadGuard : newAdGuardDomainItem lib options = none ↔
      options.adGuardDomain = [] ∧ options.adGuardDomainMatcher = none := by
    unfold newAdGuardDomainItem
    split_ifs with hlist
    · simp [hlist]
    · simp [not_not.1 hlist]
  simp only [AbstractDefaultRule.itemCount, defaultRuleOf, Nat.add_eq_zero_iff,
    List.length_eq_zero_iff, List.append_eq_nil_iff, List.map_eq_nil_iff, Option.toList_eq_nil_iff,
    itemIf_eq_nil, networkItems_eq_nil, hdom, hsrc, hset, hadGuard, decide_eq_false_iff_not,
    not_not, DefaultHeadlessRule.isZero, withoutNetworkManager, Bool.and_eq_true,
    List.isEmpty_iff, Option.isNone_iff_eq_none]
  constructor
  · intro h
    simp [h]
  · intro h
    simp [h]

/-- An accepted rule has an item exactly if it sets an option that does not ask the network manager,
or there is one. -/
theorem itemCount_pos_iff {emptyLists : Bool} {built : HeadlessRule}
    (h : newHeadlessRule lib manager emptyLists (.default options) = .ok built) :
    ∃ rule, built = .default rule none ∧
      (0 < rule.itemCount ↔ (withoutNetworkManager options).isZero = false ∨
        manager ≠ none ∧ asksNetworkManager options = true) := by
  rw [newHeadlessRule] at h
  split_ifs at h
  obtain ⟨rule, hrule, rfl⟩ := map_eq_ok h
  refine ⟨rule, rfl, ?_⟩
  rw [Nat.pos_iff_ne_zero, Ne, itemCount_eq_zero hrule, not_and_or, not_or, Bool.not_eq_true,
    Bool.not_eq_false]

def bareLibrary : RuleLibrary where
  Matcher := Unit
  newMatcher _ _ _ := ()
  AdGuardMatcher := Unit
  newAdGuardMatcher _ := ()
  parsePrefix _ := .error ""
  parseAddr _ := none
  buildIPSet _ := .ok []
  matchDomain _ _ := false
  matchAdGuard _ _ := false
  toLower := id
  contains _ _ := false
  compile _ := .error ""
  containsAddr _ _ := false
  parseUint16 _ := .error ""
  text _ := ""
  base := id
  isAndroid := false

theorem itemCount_pos_port :
    ∃ built, newHeadlessRule bareLibrary none false (.default { port := [53] }) = .ok built ∧
      ∃ rule, built = .default rule none ∧ 0 < rule.itemCount := by
  have hbuilt : newHeadlessRule bareLibrary none false (.default { port := [53] }) = .ok _ := rfl
  obtain ⟨rule, hrule, hiff⟩ := itemCount_pos_iff hbuilt
  exact ⟨_, hbuilt, rule, hrule, hiff.2 (.inl rfl)⟩

/-- Without a manager, or with an empty list, it matches everything. -/
theorem not_itemCount_pos_expensive :
    (∃ rule, newHeadlessRule bareLibrary none false (.default { networkIsExpensive := true }) =
        .ok (.default rule none) ∧ rule.itemCount = 0 ∧
          ∀ metadata, (default rule none).match metadata = true) ∧
      ∃ rule, newHeadlessRule bareLibrary none true (.default {}) = .ok (.default rule none) ∧
        rule.itemCount = 0 ∧
          ∀ metadata, (default rule none).match metadata = true :=
  ⟨⟨_, rfl, rfl, match_default_of_itemCount rfl⟩,
    ⟨_, rfl, rfl, match_default_of_itemCount rfl⟩⟩

end SingBox
