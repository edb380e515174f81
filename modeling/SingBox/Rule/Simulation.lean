import SingBox.Rule.Groups

/-!
# Comparing two evaluations of a rule

`Simulates R S T`: every state of `S` has a counterpart in `T` related to it by `R`. The evaluators
keep it.
-/

namespace SingBox
open RuleMatchState RuleMatchStateSet HeadlessRule

/-- Every state of the first set is related to some state of the second. -/
def Simulates (R : RuleMatchState → RuleMatchState → Prop) (S T : RuleMatchStateSet) : Prop :=
  ∀ s, S.contains s → ∃ t, T.contains t ∧ R s t

namespace Simulates
variable {R : RuleMatchState → RuleMatchState → Prop} {S S' T T' : RuleMatchStateSet}

lemma mono {R' : RuleMatchState → RuleMatchState → Prop} (h : Simulates R S T)
    (hR : ∀ s t, R s t → R' s t) : Simulates R' S T := by
  intro s hs
  obtain ⟨t, ht, hst⟩ := h s hs
  exact ⟨t, ht, hR s t hst⟩

lemma isEmpty_eq_false (h : Simulates R S T) (hS : S.isEmpty = false) : T.isEmpty = false := by
  obtain ⟨s, hs⟩ := (isEmpty_eq_false_iff S).1 hS
  obtain ⟨t, ht, -⟩ := h s hs
  exact (isEmpty_eq_false_iff T).2 ⟨t, ht⟩

lemma noMatch_left : Simulates R .noMatch T := by
  intro s hs
  simp at hs

lemma combine (hor : ∀ s s' t t', R s t → R s' t' → R (s ||| s') (t ||| t'))
    (h : Simulates R S T) (h' : Simulates R S' T') :
    Simulates R (S.combine S') (T.combine T') := by
  intro x hx
  obtain ⟨s, s', hs, hs', rfl⟩ := (contains_combine S S' x).1 hx
  obtain ⟨t, ht, hst⟩ := h s hs
  obtain ⟨t', ht', hst'⟩ := h' s' hs'
  exact ⟨t ||| t', (contains_combine T T' _).2 ⟨t, t', ht, ht', rfl⟩, hor s s' t t' hst hst'⟩

lemma emptyRuleMatchState_withBase {base base' : RuleMatchState} (h : R base base') :
    Simulates R (emptyRuleMatchState.withBase base) (emptyRuleMatchState.withBase base') := by
  intro s hs
  obtain rfl : s = base := by simpa using hs
  exact ⟨base', by simp, h⟩

variable {metadata metadata' : InboundContext} {base base' : RuleMatchState}
  {rules : List HeadlessRule}

section
variable (hrules : ∀ rule ∈ rules,
  Simulates R (rule.matchStatesWithBase metadata.resetRuleCache base)
    (rule.matchStatesWithBase metadata'.resetRuleCache base'))
include hrules

lemma matchAnyRule :
    Simulates R (matchAnyRule rules metadata base .noMatch)
    (matchAnyRule rules metadata' base' .noMatch) := by
  intro s hs
  obtain hs | ⟨rule, hmem, hs⟩ := (contains_matchAnyRule ..).1 hs
  · simp at hs
  · obtain ⟨t, ht, hst⟩ := hrules rule hmem s hs
    exact ⟨t, (contains_matchAnyRule ..).2 (.inr ⟨rule, hmem, ht⟩), hst⟩

variable (hor : ∀ s s' t t', R s t → R s' t' → R (s ||| s') (t ||| t'))
include hor

lemma matchAllRules (hacc : Simulates R S T)
    (hS : matchAllRules rules metadata base S = some S') :
    ∃ T', SingBox.matchAllRules rules metadata' base' T = some T' ∧ Simulates R S' T' := by
  induction rules generalizing S T with
  | nil =>
    rw [SingBox.matchAllRules] at hS
    obtain rfl : S = S' := by simpa using hS
    exact ⟨T, by rw [SingBox.matchAllRules], hacc⟩
  | cons rule rules ih =>
    have hfst := hrules rule List.mem_cons_self
    rw [SingBox.matchAllRules] at hS ⊢
    cases hemp : (rule.matchStatesWithBase metadata.resetRuleCache base).isEmpty with
    | true => simp [hemp] at hS
    | false =>
      simp only [hemp, hfst.isEmpty_eq_false hemp, Bool.false_eq_true, if_false] at hS ⊢
      exact ih (fun rule hmem => hrules rule (List.mem_cons_of_mem _ hmem))
        (combine hor hacc hfst) hS

lemma logical (hbase : R base base') (mode : LogicalMode) :
    Simulates R ((logical rules mode false).matchStatesWithBase metadata base)
    ((logical rules mode false).matchStatesWithBase metadata' base') := by
  cases mode with
  | and =>
    rw [matchStatesWithBase_and, matchStatesWithBase_and]
    intro s hs
    cases hall : SingBox.matchAllRules rules metadata base (emptyRuleMatchState.withBase base) with
    | none => simp [hall] at hs
    | some S' =>
      obtain ⟨T', hT', hsim⟩ := matchAllRules hrules hor (emptyRuleMatchState_withBase hbase) hall
      obtain ⟨t, ht, hst⟩ := hsim s (by simpa [hall] using hs)
      exact ⟨t, by simpa [hT'] using ht, hst⟩
  | or =>
    rw [matchStatesWithBase_or, matchStatesWithBase_or]
    exact matchAnyRule hrules

end

lemma positiveStates {rule : AbstractDefaultRule} {ruleSetItem : Option (RuleSetItem HeadlessRule)}
    (hitems : rule.otherItemsMatch metadata → rule.otherItemsMatch metadata')
    (hreq : ∀ s t, R s t → Subset (rule.requiredBits metadata) s →
      Subset (rule.requiredBits metadata') t) (hsingle : ruleSetItem = none →
      R (base ||| rule.groupBits metadata) (base' ||| rule.groupBits metadata'))
    (hbranches : ∀ item, ruleSetItem = some item → ∀ ruleSet ∈ item.setList,
      ∀ branch ∈ ruleSet.rules, Simulates R
        (branch.matchStatesWithBase (item.branchMetadata metadata)
          (base ||| rule.groupBits metadata))
        (branch.matchStatesWithBase (item.branchMetadata metadata')
          (base' ||| rule.groupBits metadata'))) :
    Simulates R (rule.positiveStates (ruleSetStates ruleSetItem) metadata base)
    (rule.positiveStates (ruleSetStates ruleSetItem) metadata' base') := by
  intro s hs
  cases ruleSetItem with
  | none =>
    obtain ⟨hoth, hsub, rfl⟩ := (rule.contains_positiveStates_none ..).1 hs
    have hR := hsingle rfl
    exact ⟨_, (rule.contains_positiveStates_none ..).2 ⟨hitems hoth, hreq _ _ hR hsub, rfl⟩, hR⟩
  | some item =>
    obtain ⟨hoth, hsub, ruleSet, hset, branch, hbranch, hs⟩ :=
      (rule.contains_positiveStates_some ..).1 hs
    obtain ⟨t, ht, hR⟩ := hbranches item rfl ruleSet hset branch hbranch s hs
    exact ⟨t, (rule.contains_positiveStates_some ..).2
      ⟨hitems hoth, hreq _ _ hR hsub, ruleSet, hset, branch, hbranch, ht⟩, hR⟩

end Simulates

variable {base base' s t : RuleMatchState}

lemma simulates_ite {R : RuleMatchState → RuleMatchState → Prop}
    (hbase : R base base') {b b' : Bool} (h : b → b') :
    Simulates R (if b then emptyRuleMatchState.withBase base else .noMatch)
    (if b' then emptyRuleMatchState.withBase base' else .noMatch) := by
  by_cases hb : b
  · rw [if_pos hb, if_pos (h hb)]
    exact .emptyRuleMatchState_withBase hbase
  · rw [if_neg hb]
    exact .noMatch_left

/-- A state of the smaller base, and its union with the larger base. -/
def BaseRel (base base' s t : RuleMatchState) : Prop := Subset base s ∧ t = s ||| base'

lemma BaseRel.or {s' t' : RuleMatchState} (h : BaseRel base base' s t)
    (h' : BaseRel base base' s' t') : BaseRel base base' (s ||| s') (t ||| t') := by
  obtain ⟨hs, rfl⟩ := h
  obtain ⟨-, rfl⟩ := h'
  refine ⟨hs.trans (subset_or_left s s'), ?_⟩
  calc s ||| base' ||| (s' ||| base')
      = s ||| (s' ||| base' ||| base') := by rw [BitVec.or_assoc, BitVec.or_comm base']
    _ = s ||| s' ||| base' := by rw [BitVec.or_assoc s', BitVec.or_self, BitVec.or_assoc]

lemma BaseRel.of_or {bits : RuleMatchState}
    (h : BaseRel (base ||| bits) (base' ||| bits) s t) : BaseRel base base' s t := by
  obtain ⟨hs, rfl⟩ := h
  have hbits : bits ||| s = s := (subset_or_right base bits).trans hs
  refine ⟨(subset_or_left base bits).trans hs, ?_⟩
  rw [BitVec.or_comm base', ← BitVec.or_assoc, BitVec.or_comm s, hbits]

lemma BaseRel.simulates (rule : HeadlessRule) (metadata : InboundContext) (h : Subset base base') :
    Simulates (BaseRel base base') (rule.matchStatesWithBase metadata base)
    (rule.matchStatesWithBase metadata base') := by
  induction rule using induct generalizing metadata base base' with
  | default rule ruleSetItem ih =>
    simp only [matchStatesWithBase_default, AbstractDefaultRule.matchStatesWithBase_eq]
    cases hi : rule.invert with
    | true => exact simulates_ite ⟨.refl base, h.symm⟩ id
    | false =>
      have hbits : Subset (base ||| rule.groupBits metadata) (base' ||| rule.groupBits metadata) :=
        or_subset (h.trans (subset_or_left _ _)) (subset_or_right _ _)
      apply Simulates.positiveStates
      · exact id
      · rintro s t ⟨-, rfl⟩ hs
        exact hs.trans (subset_or_left s base')
      · intro _
        exact .of_or ⟨.refl _, hbits.symm⟩
      · intro item hitem ruleSet hset branch hbranch
        have hsim := ih item hitem ruleSet hset branch hbranch (item.branchMetadata metadata) hbits
        exact hsim.mono fun s t hst => hst.of_or
  | logical rules mode invert ih =>
    cases invert with
    | true =>
      simp only [matchStatesWithBase_logical_invert]
      exact simulates_ite ⟨.refl base, h.symm⟩ id
    | false =>
      refine .logical ?_ (fun s s' t t' hst hst' => hst.or hst') ⟨.refl base, h.symm⟩ mode
      intro rule hmem
      exact ih rule hmem metadata.resetRuleCache h

/-- Groups satisfied by an outer rule are kept by an inner one, and a larger base is added to the
states. -/
theorem matchStatesWithBase_base_monotone (rule : HeadlessRule) (metadata : InboundContext)
    (base base' : RuleMatchState) (h : Subset base base') :
    (∀ s, (rule.matchStatesWithBase metadata base).contains s = true → Subset base s) ∧
      ∀ s, (rule.matchStatesWithBase metadata base).contains s = true →
        (rule.matchStatesWithBase metadata base').contains (s ||| base') = true := by
  have hsim := BaseRel.simulates rule metadata h
  constructor
  · intro s hs
    obtain ⟨-, -, hbase, -⟩ := hsim s hs
    exact hbase
  · intro s hs
    obtain ⟨t, ht, -, rfl⟩ := hsim s hs
    exact ht

theorem base_monotone_source_address :
    ((default { sourcePortItems := [.port true [53]] }
      (some { setList := [⟨"https", [.default
          { destinationPortItems := [.port false [443]] } none], {}⟩]
              ipCidrMatchSource := false
              ipCidrAcceptEmpty := false })).matchStatesWithBase
        { source := { port := 53 }, destination := { port := 443 } }
        ruleMatchSourceAddress).contains
      (ruleMatchSourcePort ||| ruleMatchDestinationPort ||| ruleMatchSourceAddress) = true :=
  (matchStatesWithBase_base_monotone _ _ 0#4 ruleMatchSourceAddress (by decide)).2
    (ruleMatchSourcePort ||| ruleMatchDestinationPort) (by decide +kernel)

end SingBox
