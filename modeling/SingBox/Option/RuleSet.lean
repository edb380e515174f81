import SingBox.Adapter.Matchers
import SingBox.Lib.OrderedMap
import SingBox.Rule.Abstract

/-!
# The options of rule-sets

The rules of a rule-set as they are configured. A list that is not set and an empty list are the
same.
-/

namespace SingBox.Options

/-- A prefix, which may not be valid: then it has no length. -/
structure Prefixable where
  addr : Option Addr := none
  bits : Option ℕ := none
  bits_le : ∀ n ∈ bits, ∃ a ∈ addr, n ≤ a.bitLen := by simp

namespace Prefixable

def prefixFrom (address : Option Addr) (bits : ℕ) : Prefixable :=
  match address with
  | none => {}
  | some a =>
    if h : bits ≤ a.bitLen then ⟨some a, some bits, by simpa using h⟩ else ⟨some a, none, by simp⟩

def build (p : Option Prefixable) : Prefixable := p.getD {}

end Prefixable

/-- The matchers and IP sets are read from the binary format. -/
structure DefaultHeadlessRule (Matcher AdGuardMatcher : Type) where
  queryType : List UInt16 := []
  network : List GoString := []
  domain : List GoString := []
  domainSuffix : List GoString := []
  domainKeyword : List GoString := []
  domainRegex : List GoString := []
  sourceIPCIDR : List GoString := []
  ipCIDR : List GoString := []
  sourcePort : List UInt16 := []
  sourcePortRange : List GoString := []
  port : List UInt16 := []
  portRange : List GoString := []
  processName : List GoString := []
  processPath : List GoString := []
  processPathRegex : List GoString := []
  packageName : List GoString := []
  packageNameRegex : List GoString := []
  networkType : List UInt8 := []
  networkIsExpensive : Bool := false
  networkIsConstrained : Bool := false
  wifiSSID : List GoString := []
  wifiBSSID : List GoString := []
  networkInterfaceAddress : Option (OrderedMap UInt8 (List (Option Prefixable))) := none
  defaultInterfaceAddress : List (Option Prefixable) := []
  invert : Bool := false
  domainMatcher : Option Matcher := none
  sourceIPSet : Option IPSet := none
  ipSet : Option IPSet := none
  adGuardDomain : List GoString := []
  adGuardDomainMatcher : Option AdGuardMatcher := none

inductive HeadlessRule (Matcher AdGuardMatcher : Type) where
  | default (options : DefaultHeadlessRule Matcher AdGuardMatcher)
  | logical (mode : LogicalMode) (rules : List (HeadlessRule Matcher AdGuardMatcher))
      (invert : Bool)

structure PlainRuleSet (Matcher AdGuardMatcher : Type) where
  rules : List (HeadlessRule Matcher AdGuardMatcher)

structure PlainRuleSetCompat (Matcher AdGuardMatcher : Type) where
  version : ℕ
  options : PlainRuleSet Matcher AdGuardMatcher

/-! ### Lengths

The length of a list or a string is a signed number of 64 bits. -/

variable {Matcher AdGuardMatcher : Type} (rule : DefaultHeadlessRule Matcher AdGuardMatcher)

def DefaultHeadlessRule.strings : List (List GoString) :=
  [rule.network, rule.domain, rule.domainSuffix, rule.domainKeyword, rule.domainRegex,
    rule.sourceIPCIDR, rule.ipCIDR, rule.sourcePortRange, rule.portRange, rule.processName,
    rule.processPath, rule.processPathRegex, rule.packageName, rule.packageNameRegex,
    rule.wifiSSID, rule.wifiBSSID, rule.adGuardDomain]

def entriesOf {κ ε : Type} : Option (OrderedMap κ ε) → List (κ × ε)
  | none => []
  | some map => map.entries

def DefaultHeadlessRule.lengths : List ℕ :=
  [rule.queryType.length, rule.sourcePort.length, rule.port.length, rule.networkType.length,
    (entriesOf rule.networkInterfaceAddress).length, rule.defaultInterfaceAddress.length] ++
    (entriesOf rule.networkInterfaceAddress).map (·.2.length)

/-- The lists and strings of a rule have lengths. -/
structure DefaultHeadlessRule.Fits (rule : DefaultHeadlessRule Matcher AdGuardMatcher) : Prop where
  strings : ∀ value ∈ rule.strings, value.length < 2 ^ 63 ∧ ∀ s ∈ value, s.length < 2 ^ 63
  lengths : ∀ n ∈ rule.lengths, n < 2 ^ 63

mutual

@[inherit_doc DefaultHeadlessRule.Fits]
def HeadlessRule.Fits : HeadlessRule Matcher AdGuardMatcher → Prop
  | .default options => options.Fits
  | .logical _ rules _ => rules.length < 2 ^ 63 ∧ AllFit rules

def AllFit : List (HeadlessRule Matcher AdGuardMatcher) → Prop
  | [] => True
  | rule :: rules => rule.Fits ∧ AllFit rules

end

def PlainRuleSet.Fits (ruleSet : PlainRuleSet Matcher AdGuardMatcher) : Prop :=
  ruleSet.rules.length < 2 ^ 63 ∧ AllFit ruleSet.rules

def ruleSetVersion1 : ℕ := 1

def ruleSetVersion2 : ℕ := 2

def ruleSetVersion3 : ℕ := 3

def ruleSetVersion4 : ℕ := 4

def ruleSetVersion5 : ℕ := 5

def ruleSetVersionCurrent : ℕ := ruleSetVersion5

end SingBox.Options
