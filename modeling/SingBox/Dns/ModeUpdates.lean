import SingBox.Dns.LegacyMode

/-!
# Updates of rule-sets and legacy DNS mode

Without legacy mode the rules must still resolve to this, which depends on several rule-sets.
-/

namespace SingBox
open List DNSRuleOptions Table

/-! ### Requirements and validity -/

def metadataOf (router : Table String RuleSetMetadata) :
    String → Except ModeError RuleSetMetadata :=
  lookupDNSRuleSetMetadata router empty

variable {router : Table String RuleSetMetadata}

lemma metadataOf_eq_ok {tag : String} {metadata : RuleSetMetadata} :
    metadataOf router tag = .ok metadata ↔ router tag = some metadata := by
  unfold metadataOf lookupDNSRuleSetMetadata
  rcases h : router tag with _ | found <;> simp [empty]

lemma lookupDNSRuleSetMetadata_override (tag : String) (metadata : RuleSetMetadata) :
    lookupDNSRuleSetMetadata router (Table.empty.insert tag metadata) =
    metadataOf (router.insert tag metadata) := by
  funext tag'
  by_cases h : tag' = tag
  all_goals simp [lookupDNSRuleSetMetadata, metadataOf, Table.insert, Table.empty, h]

@[elab_as_elim] lemma DNSRuleOptions.induct {P : DNSRuleOptions → Prop}
    (default : ∀ rule, P (.default rule))
    (logical : ∀ rules action, (∀ rule ∈ rules, P rule) → P (.logical rules action))
    (rule : DNSRuleOptions) : P rule := by
  refine @DNSRuleOptions.rec P (fun rules => ∀ rule ∈ rules, P rule) default logical ?_ ?_ rule
  · simp
  · intro first rules hfst hrules rule hmem
    rcases mem_cons.1 hmem with rfl | hmem
    · exact hfst
    · exact hrules rule hmem

section Disabled
variable {lookup : String → Except ModeError RuleSetMetadata}

def NotDisabled (flags : Except ModeError DNSRuleModeFlags) : Prop :=
  ∃ f, flags = .ok f ∧ f.disabled = false

lemma notDisabled_ok {flags : DNSRuleModeFlags} :
    NotDisabled (.ok flags) ↔ flags.disabled = false := by
  simp [NotDisabled]

lemma not_notDisabled_error {error : ModeError} : ¬ NotDisabled (.error error) := by
  rintro ⟨flags, h, _⟩
  cases h

variable (flags : DNSRuleModeFlags)

lemma notDisabled_ruleSetRequirements (matchSource : Bool) (tags : List String) :
    NotDisabled (ruleSetRequirements lookup matchSource tags flags) ↔
    flags.disabled = false ∧ ∀ tag ∈ tags, ∃ metadata, lookup tag = .ok metadata ∧
    metadata.containsDNSQueryTypeRule = false := by
  induction tags generalizing flags with
  | nil => simp [ruleSetRequirements, notDisabled_ok]
  | cons tag tags ih =>
    rcases h : lookup tag with error | metadata
    · simp [ruleSetRequirements, h, not_notDisabled_error]
    · simp [ruleSetRequirements, h, ih, and_assoc]

variable (rules : List DNSRuleOptions)

lemma notDisabled_subRuleModeRequirements (index : ℕ) :
    NotDisabled (subRuleModeRequirements lookup rules index flags) ↔ flags.disabled = false ∧
    ∀ rule ∈ rules, NotDisabled (dnsRuleModeRequirementsInRule lookup rule) := by
  induction rules generalizing index flags with
  | nil => simp [subRuleModeRequirements, notDisabled_ok]
  | cons rule rules ih =>
    rcases h : dnsRuleModeRequirementsInRule lookup rule with error | subFlags
    · simp [subRuleModeRequirements, h, not_notDisabled_error]
    · simp [subRuleModeRequirements, h, ih, notDisabled_ok, DNSRuleModeFlags.merge, and_assoc]

lemma notDisabled_dnsRuleModeRequirements (index : ℕ) :
    NotDisabled (dnsRuleModeRequirements lookup rules index flags) ↔ flags.disabled = false ∧
    ∀ rule ∈ rules, NotDisabled (dnsRuleModeRequirementsInRule lookup rule) := by
  induction rules generalizing index flags with
  | nil => simp [dnsRuleModeRequirements, notDisabled_ok]
  | cons rule rules ih =>
    rcases h : dnsRuleModeRequirementsInRule lookup rule with error | subFlags
    · simp [dnsRuleModeRequirements, h, not_notDisabled_error]
    · simp [dnsRuleModeRequirements, h, ih, notDisabled_ok, DNSRuleModeFlags.merge, and_assoc]

end Disabled

lemma pointwise_notDisabled (rule : DNSRuleOptions) : Table.Pointwise fun router =>
    NotDisabled (dnsRuleModeRequirementsInRule (metadataOf router) rule) := by
  induction rule using induct with
  | default rule =>
    simp only [dnsRuleModeRequirementsInRule, dnsRuleModeRequirementsInDefaultRule,
      notDisabled_ruleSetRequirements, metadataOf_eq_ok]
    exact .and (.const _) (.forall fun tag => .forall fun _ =>
      .entry tag fun (found : Option RuleSetMetadata) => ∃ metadata, found = some metadata ∧
        metadata.containsDNSQueryTypeRule = false)
  | logical rules action ih =>
    simp only [dnsRuleModeRequirementsInRule, notDisabled_subRuleModeRequirements]
    exact .and (.const _) (.forall fun rule => .forall fun hrule => ih rule hrule)

section Valid
variable {lookup : String → Except ModeError RuleSetMetadata}

mutual

def DNSRuleOptions.requiresPriorEvaluate : DNSRuleOptions → Bool
  | .default rule => rule.matchResponse || rule.action.isRespond
  | .logical rules action => action.isRespond || anyRequiresPriorEvaluate rules

def DNSRuleOptions.anyRequiresPriorEvaluate : List DNSRuleOptions → Bool
  | [] => false
  | rule :: rules => rule.requiresPriorEvaluate || anyRequiresPriorEvaluate rules

end

lemma validateRuleSets_eq_ok (tags : List String) : validateRuleSets lookup tags = .ok () ↔
    ∀ tag ∈ tags, ∃ metadata, lookup tag = .ok metadata ∧
    (metadata.containsIPCIDRRule && !metadata.containsNonIPCIDRRule) = false := by
  induction tags with
  | nil => simp [validateRuleSets]
  | cons tag tags ih =>
    rcases h : lookup tag with error | metadata
    · simp [validateRuleSets, h]
    · by_cases hpure : (metadata.containsIPCIDRRule && !metadata.containsNonIPCIDRRule)
      · simp only [validateRuleSets, h, hpure, if_true, forall_mem_cons, Except.ok.injEq,
          exists_eq_left', Bool.true_eq_false, false_and, reduceCtorEq]
      · have hmixed := Bool.eq_false_iff.2 hpure
        simp only [validateRuleSets, h, hmixed, Bool.false_eq_true, if_false, ih,
          forall_mem_cons, Except.ok.injEq, exists_eq_left', true_and]

lemma validateDefaultRule_eq_ok (rule : DefaultDNSRuleOptions) (requires : Bool) :
    validateLegacyDNSModeDisabledDefaultRule lookup rule = .ok requires ↔
    (((rule.hasResponseMatchFields || !rule.ipCIDR.isEmpty || rule.ipIsPrivate ||
          rule.ipAcceptAny) && !rule.matchResponse) = false ∧
        rule.ruleSetIPCIDRAcceptEmpty = false ∧
        requires = (rule.matchResponse || rule.action.isRespond)) ∧
    (rule.matchResponse = false → ∀ tag ∈ rule.ruleSet, ∃ metadata, lookup tag = .ok metadata ∧
          (metadata.containsIPCIDRRule && !metadata.containsNonIPCIDRRule) = false) := by
  unfold validateLegacyDNSModeDisabledDefaultRule
  rw [← validateRuleSets_eq_ok]
  generalize ((rule.hasResponseMatchFields || !rule.ipCIDR.isEmpty || rule.ipIsPrivate ||
    rule.ipAcceptAny) && !rule.matchResponse) = fields
  cases fields
  · cases hresp : rule.matchResponse
    · rcases hsets : validateRuleSets lookup rule.ruleSet with error | ⟨⟩
      · simp
      · cases hemp : rule.ruleSetIPCIDRAcceptEmpty <;> simp [eq_comm]
    · cases hemp : rule.ruleSetIPCIDRAcceptEmpty <;> simp [eq_comm]
  · simp

lemma validateSubRules_eq_ok {rules : List DNSRuleOptions} (h : ∀ rule ∈ rules, ∀ result,
      validateLegacyDNSModeDisabledRuleTree lookup rule = .ok result →
        result = rule.requiresPriorEvaluate) (index : ℕ) (requires result : Bool) :
    validateSubRules lookup rules index requires = .ok result ↔
    result = (requires || anyRequiresPriorEvaluate rules) ∧
    ∀ rule ∈ rules, validateLegacyDNSModeDisabledRuleTree lookup rule =
    .ok rule.requiresPriorEvaluate := by
  induction rules generalizing index requires with
  | nil => simp [validateSubRules, anyRequiresPriorEvaluate, eq_comm]
  | cons rule rules ih =>
    rcases hrule : validateLegacyDNSModeDisabledRuleTree lookup rule with error | required
    · simp [validateSubRules, hrule]
    · obtain rfl := h rule mem_cons_self required hrule
      have hrules := ih (fun rule hmem => h rule (mem_cons_of_mem _ hmem))
      simp [validateSubRules, hrule, hrules, anyRequiresPriorEvaluate, Bool.or_assoc]

lemma requiresPriorEvaluate_of_ok (rule : DNSRuleOptions) (result : Bool)
    (h : validateLegacyDNSModeDisabledRuleTree lookup rule = .ok result) :
    result = rule.requiresPriorEvaluate := by
  induction rule using induct generalizing result with
  | default rule =>
    rw [validateLegacyDNSModeDisabledRuleTree, validateDefaultRule_eq_ok] at h
    exact h.1.2.2
  | logical rules action ih =>
    rw [validateLegacyDNSModeDisabledRuleTree, validateSubRules_eq_ok ih] at h
    exact h.1

def evaluatesFirst : List DNSRuleOptions → Bool → Prop
  | [], _ => True
  | rule :: rules, seenEvaluate =>
    (rule.requiresPriorEvaluate && !seenEvaluate) = false ∧
      evaluatesFirst rules (seenEvaluate || rule.action.isEvaluate)

lemma validateRules_eq_ok (rules : List DNSRuleOptions) (index : ℕ) (seenEvaluate : Bool) :
    validateLegacyDNSModeDisabledRules lookup rules index seenEvaluate = .ok () ↔
    evaluatesFirst rules seenEvaluate ∧
    ∀ rule ∈ rules, validateLegacyDNSModeDisabledRuleTree lookup rule =
    .ok rule.requiresPriorEvaluate := by
  induction rules generalizing index seenEvaluate with
  | nil => simp [validateLegacyDNSModeDisabledRules, evaluatesFirst]
  | cons rule rules ih =>
    rcases hrule : validateLegacyDNSModeDisabledRuleTree lookup rule with error | required
    · simp [validateLegacyDNSModeDisabledRules, hrule]
    · obtain rfl := requiresPriorEvaluate_of_ok rule required hrule
      by_cases hmissing : (rule.requiresPriorEvaluate && !seenEvaluate)
      · simp only [validateLegacyDNSModeDisabledRules, hrule, hmissing, if_true, evaluatesFirst,
          Bool.true_eq_false, false_and, reduceCtorEq]
      · have hseen := Bool.eq_false_iff.2 hmissing
        simp only [validateLegacyDNSModeDisabledRules, hrule, hseen, Bool.false_eq_true, if_false,
          ih, evaluatesFirst, forall_mem_cons, true_and]

end Valid

lemma pointwise_valid (rule : DNSRuleOptions) : Table.Pointwise fun router =>
    validateLegacyDNSModeDisabledRuleTree (metadataOf router) rule =
    .ok rule.requiresPriorEvaluate := by
  induction rule using induct with
  | default rule =>
    simp only [validateLegacyDNSModeDisabledRuleTree, validateDefaultRule_eq_ok, metadataOf_eq_ok]
    exact .and (.const _) (.forall fun _ => .forall fun tag => .forall fun _ =>
      .entry tag fun (found : Option RuleSetMetadata) => ∃ metadata, found = some metadata ∧
        (metadata.containsIPCIDRRule && !metadata.containsNonIPCIDRRule) = false)
  | logical rules action ih =>
    simp only [validateLegacyDNSModeDisabledRuleTree,
      validateSubRules_eq_ok fun rule _ => requiresPriorEvaluate_of_ok rule]
    exact .and (.const _) (.forall fun rule => .forall fun hrule => ih rule hrule)

/-! ### The invariant -/

variable (rules : List DNSRuleOptions)

def AllowsLegacy (router : Table String RuleSetMetadata) : Prop :=
  NotDisabled (dnsRuleModeRequirements (metadataOf router) rules 0 {})

def ValidWithoutLegacy (router : Table String RuleSetMetadata) : Prop :=
  validateLegacyDNSModeDisabledRules (metadataOf router) rules 0 false = .ok ()

def ResolvesWithoutLegacy (router : Table String RuleSetMetadata) : Prop :=
  ∃ flags, resolveLegacyDNSMode (metadataOf router) rules = .ok (false, flags)

def ModeInvariant (legacyDNSMode : Bool) (router : Table String RuleSetMetadata) : Prop :=
  if legacyDNSMode then AllowsLegacy rules router
  else ResolvesWithoutLegacy rules router ∧ ValidWithoutLegacy rules router

variable {rules}

lemma pointwise_allowsLegacy : Table.Pointwise (AllowsLegacy rules) := by
  unfold AllowsLegacy
  simp only [notDisabled_dnsRuleModeRequirements]
  exact .and (.const _) (.forall fun rule => .forall fun _ => pointwise_notDisabled rule)

lemma pointwise_validWithoutLegacy : Table.Pointwise (ValidWithoutLegacy rules) := by
  unfold ValidWithoutLegacy
  simp only [validateRules_eq_ok]
  exact .and (.const _) (.forall fun rule => .forall fun _ => pointwise_valid rule)

lemma allowsLegacy_of_resolve {flags : DNSRuleModeFlags}
    (h : resolveLegacyDNSMode (metadataOf router) rules = .ok (true, flags)) :
    AllowsLegacy rules router := by
  unfold resolveLegacyDNSMode at h
  split at h
  · cases h
  · rename_i computed hcomputed
    refine ⟨computed, hcomputed, ?_⟩
    split_ifs at h with _ hdis
    · simp at h
    · simpa using hdis

lemma modeInvariant_start {legacyDNSMode : Bool} (h : startMode rules router = .ok legacyDNSMode) :
    ModeInvariant rules legacyDNSMode router := by
  dsimp only [startMode] at h
  split at h
  · cases h
  · rename_i flags hresolve
    obtain rfl := Except.ok.inj h
    exact allowsLegacy_of_resolve hresolve
  · rename_i flags hresolve
    split at h
    · cases h
    · rename_i hvalid
      obtain rfl := Except.ok.inj h
      exact ⟨⟨flags, hresolve⟩, hvalid⟩

lemma validateRuleSetMetadataUpdate_eq_ok (legacyDNSMode : Bool)
    (router : Table String RuleSetMetadata) (tag : String) (metadata : RuleSetMetadata) :
    validateRuleSetMetadataUpdate rules ⟨true, false, legacyDNSMode⟩ router tag metadata = .ok () ↔
    ModeInvariant rules legacyDNSMode (router.insert tag metadata) := by
  unfold validateRuleSetMetadataUpdate
  rw [lookupDNSRuleSetMetadata_override]
  generalize router.insert tag metadata = updated
  rcases rules with _ | ⟨rule, rules⟩
  · cases legacyDNSMode
    · exact ⟨fun _ => ⟨⟨_, rfl⟩, rfl⟩, fun _ => rfl⟩
    · exact ⟨fun _ => ⟨_, rfl, rfl⟩, fun _ => rfl⟩
  rcases hflags : dnsRuleModeRequirements (metadataOf updated) (rule :: rules) 0 {} with
    error | flags
  · cases legacyDNSMode <;>
      simp [resolveLegacyDNSMode, hflags, ModeInvariant, AllowsLegacy, ResolvesWithoutLegacy,
        not_notDisabled_error]
  rcases hvalid : validateLegacyDNSModeDisabledRules (metadataOf updated) (rule :: rules) 0 false
    with error | ⟨⟩ <;>
  cases legacyDNSMode <;> cases hdis : flags.disabled <;>
    cases hstrat : flags.neededFromStrategy <;> cases hneeded : flags.needed <;>
    simp [resolveLegacyDNSMode, hflags, hvalid, hdis, hstrat, hneeded, ModeInvariant,
      AllowsLegacy, ResolvesWithoutLegacy, ValidWithoutLegacy, notDisabled_ok]

/-! ### Updates -/

/-- Outside legacy mode, the others are as they were at validation. -/
def UpdateStep.Fresh (state : RouterState) : UpdateStep → Prop
  | .validate _ _ => True
  | .commit tag =>
    state.status.legacyDNSMode ∨ ∀ update, state.updates tag = some update →
        ∀ other, other ≠ tag → update.seen other = state.metadata other

structure UpdatesValidated (rules : List DNSRuleOptions) (legacyDNSMode : Bool)
    (state : RouterState) : Prop where
  status : state.status = ⟨true, false, legacyDNSMode⟩
  updates : state.updates.All fun tag update =>
    ModeInvariant rules legacyDNSMode (update.seen.insert tag update.metadata)

variable {legacyDNSMode : Bool} {state : RouterState}

lemma UpdatesValidated.start (metadata : Table String RuleSetMetadata) :
    UpdatesValidated rules legacyDNSMode (.start metadata legacyDNSMode) :=
  ⟨rfl, all_empty⟩

lemma UpdatesValidated.step (h : UpdatesValidated rules legacyDNSMode state)
    (step : UpdateStep) : UpdatesValidated rules legacyDNSMode (updateStep rules state step) := by
  cases step with
  | validate tag metadata =>
    simp only [updateStep]
    split
    · rename_i hvalid
      rw [h.status] at hvalid
      exact ⟨h.status, h.updates.insert ((validateRuleSetMetadataUpdate_eq_ok _ _ _ _).1 hvalid)⟩
    · exact ⟨h.status, h.updates.erase tag⟩
  | commit tag =>
    simp only [updateStep]
    split
    · exact h
    · exact ⟨h.status, h.updates.erase tag⟩

lemma updateStep_metadata (rules : List DNSRuleOptions) (state : RouterState) (step : UpdateStep) :
    (updateStep rules state step).metadata = state.metadata ∨
    ∃ tag update, step = .commit tag ∧ state.updates tag = some update ∧
    (updateStep rules state step).metadata = state.metadata.insert tag update.metadata := by
  cases step with
  | validate tag metadata =>
    left
    simp only [updateStep]
    split <;> rfl
  | commit tag =>
    simp only [updateStep]
    split
    · exact .inl rfl
    · rename_i update hupdate
      exact .inr ⟨tag, update, rfl, hupdate, rfl⟩

lemma UpdatesValidated.pointwise_step (h : UpdatesValidated rules legacyDNSMode state)
    {p : Table String RuleSetMetadata → Prop} (hp : Table.Pointwise p)
    (hvalid : ∀ router, ModeInvariant rules legacyDNSMode router → p router)
    (hst : p state.metadata) (step : UpdateStep) :
    p (updateStep rules state step).metadata := by
  rcases updateStep_metadata rules state step with hsame | ⟨tag, update, _, hupdate, hcommit⟩
  · rw [hsame]
    exact hst
  · rw [hcommit]
    exact hp _ update.seen tag update.metadata hst (hvalid _ (h.updates tag update hupdate))

lemma UpdatesValidated.fresh_step (h : UpdatesValidated rules legacyDNSMode state)
    (hst : ModeInvariant rules legacyDNSMode state.metadata) {step : UpdateStep}
    (hfresh : step.Fresh state) :
    ModeInvariant rules legacyDNSMode (updateStep rules state step).metadata := by
  rcases updateStep_metadata rules state step with hsame | ⟨tag, update, rfl, hupdate, hcommit⟩
  · rw [hsame]
    exact hst
  rcases hfresh with hlegacy | hseen
  · obtain rfl : legacyDNSMode := by simpa [h.status] using hlegacy
    exact h.pointwise_step pointwise_allowsLegacy (fun _ hinv => hinv) hst _
  · have hsame : update.seen.insert tag update.metadata =
        state.metadata.insert tag update.metadata := by
      funext other
      by_cases hoth : other = tag
      · rw [hoth, insert_self, insert_self]
      · rw [insert_of_ne _ _ hoth, insert_of_ne _ _ hoth, hseen update hupdate other hoth]
    rw [hcommit, ← hsame]
    exact h.updates tag update hupdate

/-- A router keeps its mode and invariant if the other rule-sets are at commit as at validation. -/
theorem modeInvariant_of_run {metadata : Table String RuleSetMetadata}
    (hstart : startMode rules metadata = .ok legacyDNSMode) :
    (∀ state, Run (updateStep rules) (fun _ _ => True) (.start metadata legacyDNSMode) state →
      (legacyDNSMode = true → AllowsLegacy rules state.metadata) ∧
        (legacyDNSMode = false → ValidWithoutLegacy rules state.metadata)) ∧
    ∀ state, Run (updateStep rules) (fun state step => step.Fresh state)
        (.start metadata legacyDNSMode) state →
      ModeInvariant rules legacyDNSMode state.metadata := by
  have hinv := modeInvariant_start hstart
  constructor
  · intro state hrun
    cases legacyDNSMode with
    | true =>
      have hreached := hrun.invariant (I := fun state => UpdatesValidated rules true state ∧
          AllowsLegacy rules state.metadata) ⟨.start metadata, hinv⟩
        fun state step h _ => ⟨h.1.step step,
          h.1.pointwise_step pointwise_allowsLegacy (fun _ hvalid => hvalid) h.2 step⟩
      exact ⟨fun _ => hreached.2, (nomatch ·)⟩
    | false =>
      have hreached := hrun.invariant (I := fun state => UpdatesValidated rules false state ∧
          ValidWithoutLegacy rules state.metadata) ⟨.start metadata, hinv.2⟩
        fun state step h _ => ⟨h.1.step step,
          h.1.pointwise_step pointwise_validWithoutLegacy (fun _ hvalid => hvalid.2) h.2 step⟩
      exact ⟨(nomatch ·), fun _ => hreached.2⟩
  · intro state hrun
    have hreached := hrun.invariant (I := fun state => UpdatesValidated rules legacyDNSMode state ∧
        ModeInvariant rules legacyDNSMode state.metadata) ⟨.start metadata, hinv⟩
      fun state step h hfresh => ⟨h.1.step step, h.1.fresh_step h.2 hfresh⟩
    exact hreached.2

/-!
### Two rule-sets

A rule uses two rule-sets that both ask for the query type, one of them also for addresses.
-/

def twoSetsRule : DNSRuleOptions := .default { ruleSet := ["a", "b"] }

def twoSetsMetadata : Table String RuleSetMetadata :=
  let a : RuleSetMetadata :=
    { containsIPCIDRRule := true
      containsDNSQueryTypeRule := true
      containsNonIPCIDRRule := true }
  (empty.insert "a" a).insert "b" { containsDNSQueryTypeRule := true }

def droppedMetadata : RuleSetMetadata where
  containsIPCIDRRule := true
  containsNonIPCIDRRule := true

theorem modeInvariant_of_run_one_update :
    let validated :=
      updateStep [twoSetsRule] (.start twoSetsMetadata false) (.validate "a" droppedMetadata)
    let committed := updateStep [twoSetsRule] validated (.commit "a")
    (committed.metadata "a").map RuleSetMetadata.containsDNSQueryTypeRule = some false ∧
      ModeInvariant [twoSetsRule] false committed.metadata := by
  intro validated committed
  have hst : startMode [twoSetsRule] twoSetsMetadata = .ok false := rfl
  refine ⟨by decide, (modeInvariant_of_run hst).2 committed (.step (.step .start trivial) ?_)⟩
  right
  intro update hupdate other _
  obtain rfl := Option.some.inj hupdate
  rfl

/-- Both drop their query type rules, validated too early. -/
theorem modeInvariant_broken_by_two_updates :
    let steps : List UpdateStep :=
      [.validate "a" droppedMetadata, .validate "b" {}, .commit "a", .commit "b"]
    let final := steps.foldl (updateStep [twoSetsRule]) (.start twoSetsMetadata false)
    (startMode [twoSetsRule] twoSetsMetadata).toOption = some false ∧
      final.status.legacyDNSMode = false ∧
      ((resolveLegacyDNSMode (metadataOf final.metadata) [twoSetsRule]).toOption.map Prod.fst =
        some true) ∧
      ¬ ModeInvariant [twoSetsRule] false final.metadata := by
  intro steps final
  have hresolve : (resolveLegacyDNSMode (metadataOf final.metadata)
      [twoSetsRule]).toOption.map Prod.fst = some true := by
    decide
  refine ⟨by decide, by decide, hresolve, ?_⟩
  rintro ⟨⟨flags, hflags⟩, _⟩
  rw [hflags] at hresolve
  cases hresolve

end SingBox
