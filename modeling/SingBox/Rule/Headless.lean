import SingBox.Option.RuleSet
import SingBox.Rule.Reading

/-!
# Building rules from options

The constructors check that a rule has a condition and make the items of its fields. Items that ask
the network manager are given its answers.
-/

namespace SingBox
open Options AbstractDefaultRule List HeadlessRule

structure RuleLibrary extends DomainLibrary, IPLibrary where
  matchDomain : Matcher → String → Bool
  matchAdGuard : AdGuardMatcher → String → Bool
  toLower : String → String
  contains : String → GoString → Bool
  compile : GoString → Except String (String → Bool)
  containsAddr : IPSet → Addr → Bool
  parseUint16 : GoString → Except String ℕ
  text : GoString → String
  base : String → String
  isAndroid : Bool

structure NetworkManager where
  networkType : List UInt8 → Bool
  isExpensive : Bool
  isConstrained : Bool
  wifiSSID : List GoString → Bool
  wifiBSSID : List GoString → Bool
  networkInterfaceAddress : List (UInt8 × List (Option Prefixable)) → Bool
  defaultInterfaceAddress : List (Option Prefixable) → Bool

namespace Options
variable {Matcher AdGuardMatcher : Type}

def DefaultHeadlessRule.isZero (r : DefaultHeadlessRule Matcher AdGuardMatcher) : Bool :=
  r.queryType.isEmpty && r.network.isEmpty && r.domain.isEmpty && r.domainSuffix.isEmpty &&
  r.domainKeyword.isEmpty && r.domainRegex.isEmpty && r.sourceIPCIDR.isEmpty && r.ipCIDR.isEmpty &&
  r.sourcePort.isEmpty && r.sourcePortRange.isEmpty && r.port.isEmpty && r.portRange.isEmpty &&
  r.processName.isEmpty && r.processPath.isEmpty && r.processPathRegex.isEmpty &&
  r.packageName.isEmpty && r.packageNameRegex.isEmpty && r.networkType.isEmpty &&
  !r.networkIsExpensive && !r.networkIsConstrained && r.wifiSSID.isEmpty && r.wifiBSSID.isEmpty &&
  r.networkInterfaceAddress.isNone && r.defaultInterfaceAddress.isEmpty && r.domainMatcher.isNone &&
  r.sourceIPSet.isNone && r.ipSet.isNone && r.adGuardDomain.isEmpty &&
  r.adGuardDomainMatcher.isNone

def DefaultHeadlessRule.isValid (emptyLists : Bool)
    (r : DefaultHeadlessRule Matcher AdGuardMatcher) : Bool :=
  !r.isZero || emptyLists

mutual

def HeadlessRule.isValid (emptyLists : Bool) : HeadlessRule Matcher AdGuardMatcher → Bool
  | .default options => options.isValid emptyLists
  | .logical _ rules _ => !rules.isEmpty && allValid emptyLists rules

def allValid (emptyLists : Bool) : List (HeadlessRule Matcher AdGuardMatcher) → Bool
  | [] => true
  | rule :: rules => rule.isValid emptyLists && allValid emptyLists rules

end

end Options

variable (lib : RuleLibrary)

abbrev DefaultOptions := DefaultHeadlessRule lib.Matcher lib.AdGuardMatcher

abbrev RuleOptions := Options.HeadlessRule lib.Matcher lib.AdGuardMatcher

def itemIf (present : Bool) (item : RuleItem) : List RuleItem := if present then [item] else []

lemma mem_itemIf {present : Bool} {item x : RuleItem} :
    x ∈ itemIf present item ↔ present ∧ x = item := by
  cases present <;> simp [itemIf]

variable (manager : Option NetworkManager) (options : DefaultOptions lib)

def newDomainItem : Except String (Option lib.Matcher) :=
  if options.domain ≠ [] ∨ options.domainSuffix ≠ [] then
    if [] ∈ options.domain then .error "domain: empty item is not allowed"
    else if [] ∈ options.domainSuffix then .error "domain_suffix: empty item is not allowed"
    else .ok (some (lib.newMatcher options.domain options.domainSuffix false))
  else .ok options.domainMatcher

def compileAll : List GoString → ℕ → Except String (List (String → Bool))
  | [], _ => .ok []
  | regex :: rest, i =>
    match lib.compile regex with
    | .error error => .error ("parse expression " ++ toString i ++ ": " ++ error)
    | .ok matcher => (compileAll rest (i + 1)).map (matcher :: ·)

def newIPCIDRItem (value : List GoString) (set : Option IPSet) : Except String (Option IPSet) :=
  if value ≠ [] then (lib.ipSetOf value).map some else .ok set

def parsePortRange (portRange : GoString) : Except String (ℕ × ℕ) :=
  let bad := "bad port range: " ++ lib.text portRange
  let parse (part : GoString) (missing : ℕ) : Except String ℕ := if part = [] then .ok missing
    else (lib.parseUint16 part).mapError fun error => bad ++ ": " ++ error
  -- the character that separates the two parts is a colon
  match portRange.dropWhile (· ≠ 58) with
  | [] => .error bad
  | _ :: last => do
    let start ← parse (portRange.takeWhile (· ≠ 58)) 0
    let last ← parse last 0xFFFF
    return (start, last)

def inField {α : Type} (name : String) (result : Except String α) : Except String α :=
  result.mapError fun error => name ++ ": " ++ error

def networkItems : List RuleItem :=
  match manager with
  | none => []
  | some manager =>
    itemIf (options.networkType ≠ []) (.environment (manager.networkType options.networkType)) ++
    itemIf options.networkIsExpensive (.environment manager.isExpensive) ++
    itemIf options.networkIsConstrained (.environment manager.isConstrained) ++
    itemIf (options.wifiSSID ≠ []) (.environment (manager.wifiSSID options.wifiSSID)) ++
    itemIf (options.wifiBSSID ≠ []) (.environment (manager.wifiBSSID options.wifiBSSID)) ++
    itemIf (entriesOf options.networkInterfaceAddress ≠ []) (.environment
      (manager.networkInterfaceAddress (entriesOf options.networkInterfaceAddress))) ++
    itemIf (options.defaultInterfaceAddress ≠ [])
      (.environment (manager.defaultInterfaceAddress options.defaultInterfaceAddress))

lemma group_networkItems : ∀ item ∈ networkItems lib manager options, item.group = .other := by
  cases manager with
  | none => simp [networkItems]
  | some manager =>
    intro item hitem
    simp only [networkItems, mem_append, mem_itemIf, or_assoc] at hitem
    rcases hitem with ⟨-, rfl⟩ | ⟨-, rfl⟩ | ⟨-, rfl⟩ | ⟨-, rfl⟩ | ⟨-, rfl⟩ | ⟨-, rfl⟩ | ⟨-, rfl⟩ <;>
      rfl

def newAdGuardDomainItem : Option lib.AdGuardMatcher :=
  if options.adGuardDomain ≠ [] then some (lib.newAdGuardMatcher options.adGuardDomain)
  else options.adGuardDomainMatcher

structure ParsedFields where
  domain : Option lib.Matcher := none
  domainRegex : List (String → Bool) := []
  sourceIPSet : Option IPSet := none
  ipSet : Option IPSet := none
  sourcePortRange : List (ℕ × ℕ) := []
  portRange : List (ℕ × ℕ) := []
  processPathRegex : List (String → Bool) := []
  packageNameRegex : List (String → Bool) := []

def parseFields : Except String (ParsedFields lib) := do
  let domain ← newDomainItem lib options
  let domainRegex ← inField "domain_regex" (compileAll lib options.domainRegex 0)
  let sourceIPSet ← inField "source_ip_cidr"
    (newIPCIDRItem lib options.sourceIPCIDR options.sourceIPSet)
  let ipSet ← inField "ipcidr" (newIPCIDRItem lib options.ipCIDR options.ipSet)
  let sourcePortRange ← inField "source_port_range"
    (options.sourcePortRange.mapM (parsePortRange lib))
  let portRange ← inField "port_range" (options.portRange.mapM (parsePortRange lib))
  let processPathRegex ← inField "process_path_regex" (compileAll lib options.processPathRegex 0)
  let packageNameRegex ← inField "package_name_regex" (compileAll lib options.packageNameRegex 0)
  return ⟨domain, domainRegex, sourceIPSet, ipSet, sourcePortRange, portRange, processPathRegex,
    packageNameRegex⟩

def defaultRuleOf (fields : ParsedFields lib) : AbstractDefaultRule where
  items := itemIf (options.queryType ≠ []) (.queryType (options.queryType.map UInt16.toNat)) ++
    itemIf (options.network ≠ []) (.network (options.network.map lib.text)) ++
    itemIf (options.processName ≠ []) (.processName lib.base (options.processName.map lib.text)) ++
    itemIf (options.processPath ≠ [])
      (.processPath lib.isAndroid (options.processPath.map lib.text)) ++
    itemIf (options.processPathRegex ≠ []) (.processPathRegex fields.processPathRegex) ++
    itemIf (options.packageName ≠ []) (.packageName (options.packageName.map lib.text)) ++
    itemIf (options.packageNameRegex ≠ []) (.packageNameRegex fields.packageNameRegex) ++
    networkItems lib manager options
  sourceAddressItems := fields.sourceIPSet.toList.map fun set =>
    .ipCIDR true (lib.containsAddr set)
  sourcePortItems :=
    itemIf (options.sourcePort ≠ []) (.port true (options.sourcePort.map UInt16.toNat)) ++
    itemIf (options.sourcePortRange ≠ []) (.portRange true fields.sourcePortRange)
  destinationAddressItems := (fields.domain.toList.map fun matcher =>
      .domain fun host => lib.matchDomain matcher (lib.toLower host)) ++
    itemIf (options.domainKeyword ≠ []) (.domainKeyword (options.domainKeyword.map
      fun keyword host => lib.contains (lib.toLower host) keyword)) ++
    itemIf (options.domainRegex ≠ []) (.domainRegex (fields.domainRegex.map
      fun matcher host => matcher (lib.toLower host))) ++
    (newAdGuardDomainItem lib options).toList.map fun matcher =>
      .adGuardDomain fun host => lib.matchAdGuard matcher (lib.toLower host)
  destinationIPCIDRItems := fields.ipSet.toList.map fun set => .ipCIDR false (lib.containsAddr set)
  destinationPortItems :=
    itemIf (options.port ≠ []) (.port false (options.port.map UInt16.toNat)) ++
    itemIf (options.portRange ≠ []) (.portRange false fields.portRange)
  invert := options.invert
  group_items := by
    simp only [mem_append, mem_itemIf]
    rintro item (((((((⟨-, rfl⟩ | ⟨-, rfl⟩) | ⟨-, rfl⟩) | ⟨-, rfl⟩) | ⟨-, rfl⟩) | ⟨-, rfl⟩) |
      ⟨-, rfl⟩) | h)
    case inr => exact group_networkItems lib manager options item h
    all_goals rfl
  group_sourceAddressItems := by simp [RuleItem.group]
  group_sourcePortItems := by
    simp only [mem_append, mem_itemIf]
    rintro item (⟨-, rfl⟩ | ⟨-, rfl⟩) <;> rfl
  group_destinationAddressItems := by
    simp only [mem_append, mem_itemIf, mem_map]
    rintro item (((⟨_, -, rfl⟩ | ⟨-, rfl⟩) | ⟨-, rfl⟩) | ⟨_, -, rfl⟩) <;> rfl
  group_destinationIPCIDRItems := by simp [RuleItem.group]
  group_destinationPortItems := by
    simp only [mem_append, mem_itemIf]
    rintro item (⟨-, rfl⟩ | ⟨-, rfl⟩) <;> rfl

def newDefaultHeadlessRule : Except String AbstractDefaultRule :=
  (parseFields lib options).map (defaultRuleOf lib manager options)

mutual

def newHeadlessRule (manager : Option NetworkManager) (emptyLists : Bool) :
    RuleOptions lib → Except String HeadlessRule
  | .default options =>
    if options.isValid emptyLists then
      (newDefaultHeadlessRule lib manager options).map fun rule => .default rule none
    else .error "missing conditions"
  | .logical mode rules invert =>
    if (Options.HeadlessRule.logical mode rules invert).isValid emptyLists then
      (newHeadlessRules manager emptyLists rules 0).map fun rules => .logical rules mode invert
    else .error "missing conditions"

def newHeadlessRules (manager : Option NetworkManager) (emptyLists : Bool) :
    List (RuleOptions lib) → ℕ → Except String (List HeadlessRule)
  | [], _ => .ok []
  | rule :: rules, i =>
    match newHeadlessRule manager emptyLists rule with
    | .error error => .error ("sub rule[" ++ toString i ++ "]: " ++ error)
    | .ok rule => (newHeadlessRules manager emptyLists rules (i + 1)).map (rule :: ·)

end

lemma HeadlessRule.match_logical (rules : List HeadlessRule) (mode : LogicalMode) (invert : Bool)
    (metadata : InboundContext) :
    (logical rules mode invert).match metadata = ((match mode with
        | .and => rules.all fun rule => rule.match metadata.resetRuleCache
        | .or => rules.any fun rule => rule.match metadata.resetRuleCache) != invert) :=
  isEmpty_logical rules mode invert metadata

lemma HeadlessRule.match_default_of_itemCount {r : AbstractDefaultRule} (h : r.itemCount = 0)
    (metadata : InboundContext) : (HeadlessRule.default r none).match metadata := by
  have hstates : (default r none).matchStatesWithBase metadata 0#4 =
      emptyRuleMatchState.withBase 0#4 := by
    rw [matchStatesWithBase, AbstractDefaultRule.matchStatesWithBase, h]
    rfl
  rw [HeadlessRule.match, HeadlessRule.matchStates, hstates]
  decide

/-- Only conditions on the host and the destination address. -/
structure AbstractDefaultRule.OnlyDestination (r : AbstractDefaultRule) : Prop where
  items : r.items = []
  sourceAddressItems : r.sourceAddressItems = []
  sourcePortItems : r.sourcePortItems = []
  destinationIPCIDRItems : r.destinationIPCIDRItems = []
  destinationPortItems : r.destinationPortItems = []

lemma HeadlessRule.match_default_of_onlyDestination {r : AbstractDefaultRule}
    (h : r.OnlyDestination) (hne : r.destinationAddressItems ≠ []) (metadata : InboundContext) :
    (default r none).match metadata =
    (matchAnyItem r.destinationAddressItems metadata != r.invert) := by
  have hcnt : r.itemCount ≠ 0 := by
    have hpos : 0 < r.destinationAddressItems.length := length_pos_iff.2 hne
    unfold itemCount
    omega
  have hholds : (r.conditions metadata).Holds metadata ↔
      matchAnyItem r.destinationAddressItems metadata := by
    simp only [Grouped.Holds, conditions, present_grouped, satisfied_grouped, othersHold_grouped]
    constructor
    · rintro ⟨hgroups, -⟩
      have hgroup := hgroups .destinationAddress
      simp only [groupItems, h.destinationIPCIDRItems, ite_self, append_nil] at hgroup
      exact hgroup (by simpa using hne)
    · intro hany
      refine ⟨fun g hpresent => ?_, by simp [otherItemsMatch, h.items]⟩
      cases g with
      | destinationAddress =>
        simpa [groupItems, h.destinationIPCIDRItems] using hany
      | sourceAddress =>
        simp [groupItems, h.sourceAddressItems, h.destinationIPCIDRItems] at hpresent
      | sourcePort => simp [groupItems, h.sourcePortItems] at hpresent
      | destinationPort => simp [groupItems, h.destinationPortItems] at hpresent
  have honly : r.onlyIPCIDR = false := by
    simp [onlyIPCIDR, h.destinationIPCIDRItems]
  have hm := (default r none).match_eq_reading_of_isPlain (by simp [isPlain, hcnt]) metadata
  rw [hm, reading, AbstractDefaultRule.reading, honly]
  cases r.invert <;> simp [hholds]

end SingBox
