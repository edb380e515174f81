import SingBox.Dns.Router
import SingBox.Lib.Run

/-!
# Legacy DNS mode

The router decides at start whether it runs in legacy mode. Updates of rule-sets are validated
against it.
-/

namespace SingBox

structure DefaultDNSRuleOptions where
  ipVersion : ℕ := 0
  queryType : List ℕ := []
  ruleSet : List String := []
  ruleSetIPCIDRMatchSource : Bool := false
  ruleSetIPCIDRAcceptEmpty : Bool := false
  matchResponse : Bool := false
  ipCIDR : List String := []
  ipIsPrivate : Bool := false
  ipAcceptAny : Bool := false
  responseRcode : Option ℕ := none
  responseAnswer : List String := []
  responseNs : List String := []
  responseExtra : List String := []
  /-- A rule without an action has a route action without a server. -/
  action : DNSRuleAction := .route "" {}

inductive DNSRuleOptions where
  | default (rule : DefaultDNSRuleOptions)
  | logical (rules : List DNSRuleOptions) (action : DNSRuleAction)

inductive ModeError where
  | ruleSetNotFound (tag : String)
  | legacyDNSRuleStrategy
  | legacyDNSAddressFilter
  | ruleSetIPCIDRAcceptEmpty
  | requireMatchResponse
  /-- Response-based matching requires a preceding evaluate action. -/
  | requirePrecedingEvaluate (index : ℕ)
  | dnsRule (index : ℕ) (cause : ModeError)
  | validateDNSRule (index : ℕ) (cause : ModeError)
  | subRule (index : ℕ) (cause : ModeError)

def lookupDNSRuleSetMetadata (router metadataOverrides : Table String RuleSetMetadata)
    (tag : String) : Except ModeError RuleSetMetadata :=
  match metadataOverrides tag with
  | some metadata => .ok metadata
  | none =>
    match router tag with
    | some metadata => .ok metadata
    | none => .error (.ruleSetNotFound tag)

structure DNSRuleModeFlags where
  disabled : Bool := false
  needed : Bool := false
  neededFromStrategy : Bool := false

def DNSRuleModeFlags.merge (f other : DNSRuleModeFlags) : DNSRuleModeFlags where
  disabled := f.disabled || other.disabled
  needed := f.needed || other.needed
  neededFromStrategy := f.neededFromStrategy || other.neededFromStrategy

namespace DNSRuleAction

def isEvaluate : DNSRuleAction → Bool
  | .evaluate .. => true
  | _ => false

def isRespond : DNSRuleAction → Bool
  | .respond => true
  | _ => false

def options : DNSRuleAction → Option DNSRouteOptions
  | .route _ options | .evaluate _ options | .routeOptions options => some options
  | _ => none

/-- The action has an option that legacy mode does not know. -/
def disablesLegacyDNSMode (action : DNSRuleAction) : Bool :=
  action.options.any fun options => options.disableOptimisticCache

def hasStrategy (action : DNSRuleAction) : Bool :=
  action.options.any fun options => options.strategy ≠ .asIS

end DNSRuleAction

namespace DefaultDNSRuleOptions
variable (rule : DefaultDNSRuleOptions)

def needsLegacyDNSModeFromAddressFilter : Bool :=
  if rule.ruleSetIPCIDRAcceptEmpty then true
  else !rule.matchResponse && (rule.ipAcceptAny || !rule.ipCIDR.isEmpty || rule.ipIsPrivate)

def hasResponseMatchFields : Bool :=
  rule.responseRcode.isSome || !rule.responseAnswer.isEmpty || !rule.responseNs.isEmpty ||
    !rule.responseExtra.isEmpty

def disablesLegacyDNSMode : Bool :=
  rule.matchResponse || rule.hasResponseMatchFields || rule.action.isEvaluate ||
    rule.action.isRespond || 0 < rule.ipVersion || !rule.queryType.isEmpty

end DefaultDNSRuleOptions

section Mode
variable (lookup : String → Except ModeError RuleSetMetadata)

def ruleSetRequirements (matchSource : Bool) :
    List String → DNSRuleModeFlags → Except ModeError DNSRuleModeFlags
  | [], flags => .ok flags
  | tag :: tags, flags =>
    match lookup tag with
    | .error error => .error error
    | .ok metadata =>
      ruleSetRequirements matchSource tags
        { flags with
          disabled := flags.disabled || metadata.containsDNSQueryTypeRule
          needed := flags.needed || !matchSource && metadata.containsIPCIDRRule }

variable (rule : DefaultDNSRuleOptions)

def dnsRuleModeRequirementsInDefaultRule : Except ModeError DNSRuleModeFlags :=
  ruleSetRequirements lookup rule.ruleSetIPCIDRMatchSource rule.ruleSet
    { disabled := rule.disablesLegacyDNSMode || rule.action.disablesLegacyDNSMode
      needed := rule.needsLegacyDNSModeFromAddressFilter || rule.action.hasStrategy
      neededFromStrategy := rule.action.hasStrategy }

mutual

def dnsRuleModeRequirementsInRule : DNSRuleOptions → Except ModeError DNSRuleModeFlags
  | .default rule => dnsRuleModeRequirementsInDefaultRule lookup rule
  | .logical rules action =>
    subRuleModeRequirements rules 0
      { disabled := action.isEvaluate || action.isRespond || action.disablesLegacyDNSMode
        needed := action.hasStrategy
        neededFromStrategy := action.hasStrategy }

def subRuleModeRequirements :
    List DNSRuleOptions → ℕ → DNSRuleModeFlags → Except ModeError DNSRuleModeFlags
  | [], _, flags => .ok flags
  | rule :: rules, index, flags =>
    match dnsRuleModeRequirementsInRule rule with
    | .error error => .error (.subRule index error)
    | .ok subFlags => subRuleModeRequirements rules (index + 1) (flags.merge subFlags)

end

def dnsRuleModeRequirements :
    List DNSRuleOptions → ℕ → DNSRuleModeFlags → Except ModeError DNSRuleModeFlags
  | [], _, flags => .ok flags
  | rule :: rules, index, flags =>
    match dnsRuleModeRequirementsInRule lookup rule with
    | .error error => .error (.dnsRule index error)
    | .ok ruleFlags => dnsRuleModeRequirements rules (index + 1) (flags.merge ruleFlags)

def resolveLegacyDNSMode (rules : List DNSRuleOptions) :
    Except ModeError (Bool × DNSRuleModeFlags) :=
  match dnsRuleModeRequirements lookup rules 0 {} with
  | .error error => .error error
  | .ok flags =>
    if flags.disabled && flags.neededFromStrategy then .error .legacyDNSRuleStrategy
    else if flags.disabled then .ok (false, flags)
    else .ok (flags.needed, flags)

def validateRuleSets : List String → Except ModeError Unit
  | [] => .ok ()
  | tag :: tags =>
    match lookup tag with
    | .error error => .error error
    | .ok metadata =>
      if metadata.containsIPCIDRRule && !metadata.containsNonIPCIDRRule then
        .error .legacyDNSAddressFilter
      else validateRuleSets tags

/-- Validate a default rule; does it need an earlier evaluate action? -/
def validateLegacyDNSModeDisabledDefaultRule : Except ModeError Bool :=
  if (rule.hasResponseMatchFields || !rule.ipCIDR.isEmpty || rule.ipIsPrivate ||
      rule.ipAcceptAny) && !rule.matchResponse then
    .error .requireMatchResponse
  else
    match if rule.matchResponse then .ok () else validateRuleSets lookup rule.ruleSet with
    | .error error => .error error
    | .ok () =>
      if rule.ruleSetIPCIDRAcceptEmpty then .error .ruleSetIPCIDRAcceptEmpty
      else .ok (rule.matchResponse || rule.action.isRespond)

mutual

def validateLegacyDNSModeDisabledRuleTree : DNSRuleOptions → Except ModeError Bool
  | .default rule => validateLegacyDNSModeDisabledDefaultRule lookup rule
  | .logical rules action => validateSubRules rules 0 action.isRespond

def validateSubRules : List DNSRuleOptions → ℕ → Bool → Except ModeError Bool
  | [], _, requiresPriorEvaluate => .ok requiresPriorEvaluate
  | rule :: rules, index, requiresPriorEvaluate =>
    match validateLegacyDNSModeDisabledRuleTree rule with
    | .error error => .error (.subRule index error)
    | .ok subRequiresPriorEvaluate =>
      validateSubRules rules (index + 1) (requiresPriorEvaluate || subRequiresPriorEvaluate)

end

def DNSRuleOptions.action : DNSRuleOptions → DNSRuleAction
  | .default rule => rule.action
  | .logical _ action => action

def validateLegacyDNSModeDisabledRules : List DNSRuleOptions → ℕ → Bool → Except ModeError Unit
  | [], _, _ => .ok ()
  | rule :: rules, index, seenEvaluate =>
    match validateLegacyDNSModeDisabledRuleTree lookup rule with
    | .error error => .error (.validateDNSRule index error)
    | .ok requiresPriorEvaluate =>
      if requiresPriorEvaluate && !seenEvaluate then .error (.requirePrecedingEvaluate index)
      else validateLegacyDNSModeDisabledRules rules (index + 1)
        (seenEvaluate || rule.action.isEvaluate)

end Mode

variable (rules : List DNSRuleOptions)

def startMode (router : Table String RuleSetMetadata) : Except ModeError Bool :=
  let lookup := lookupDNSRuleSetMetadata router Table.empty
  match resolveLegacyDNSMode lookup rules with
  | .error error => .error error
  | .ok (true, _) => .ok true
  | .ok (false, _) =>
    match validateLegacyDNSModeDisabledRules lookup rules 0 false with
    | .error error => .error error
    | .ok () => .ok false

structure RouterStatus where
  started : Bool
  closing : Bool
  legacyDNSMode : Bool

def validateRuleSetMetadataUpdate (status : RouterStatus)
    (router : Table String RuleSetMetadata) (tag : String) (metadata : RuleSetMetadata) :
    Except ModeError Unit :=
  let lookup := lookupDNSRuleSetMetadata router (Table.empty.insert tag metadata)
  if rules.isEmpty || status.closing then .ok ()
  else
    match resolveLegacyDNSMode lookup rules with
    | .error error => .error error
    | .ok (candidateLegacyDNSMode, flags) =>
      if !status.started then
        if candidateLegacyDNSMode then .ok ()
        else validateLegacyDNSModeDisabledRules lookup rules 0 false
      else if status.legacyDNSMode then
        if !candidateLegacyDNSMode && flags.disabled then
          match validateLegacyDNSModeDisabledRules lookup rules 0 false with
          | .error error => .error error
          | .ok () => .error .legacyDNSAddressFilter
        else .ok ()
      else if candidateLegacyDNSMode then .error .legacyDNSAddressFilter
      else validateLegacyDNSModeDisabledRules lookup rules 0 false

structure RuleSetUpdate where
  metadata : RuleSetMetadata
  seen : Table String RuleSetMetadata

structure RouterState where
  metadata : Table String RuleSetMetadata
  status : RouterStatus
  updates : Table String RuleSetUpdate

def RouterState.start (metadata : Table String RuleSetMetadata) (legacyDNSMode : Bool) :
    RouterState where
  metadata := metadata
  status := ⟨true, false, legacyDNSMode⟩
  updates := Table.empty

inductive UpdateStep where
  | validate (tag : String) (metadata : RuleSetMetadata)
  | commit (tag : String)

def updateStep (state : RouterState) : UpdateStep → RouterState
  | .validate tag metadata =>
    match validateRuleSetMetadataUpdate rules state.status state.metadata tag metadata with
    | .ok () => { state with updates := state.updates.insert tag ⟨metadata, state.metadata⟩ }
    | .error _ => { state with updates := state.updates.erase tag }
  | .commit tag =>
    match state.updates tag with
    | none => state
    | some update =>
      { state with
        metadata := state.metadata.insert tag update.metadata
        updates := state.updates.erase tag }

end SingBox
