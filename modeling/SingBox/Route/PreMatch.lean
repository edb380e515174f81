import SingBox.Route.Delivery

/-!
# Matching before the connection

`PreMatch` searches the rules before there is something to sniff, and should decide as the full
search would.
-/

namespace SingBox
variable {env : RouteEnv} {rule : RouteRule} {pre full : Flow}

/-- The flow without a connection and that of the full search. An ICMP flow has no connection. -/
structure Flow.Agrees (pre full : Flow) : Prop where
  metadata : pre.metadata = full.metadata
  icmp : full.metadata.network = "icmp" → full.input = .none

def RuleStep.Agrees : RuleStep → RuleStep → Prop
  | .fatal, .fatal => True
  | .next pre, .next full => pre.Agrees full
  | .selected pre, .selected full => pre.metadata = full.metadata
  | _, _ => False

/-- The search ends at a rule that needs the data of the connection. -/
def RouteRule.StopsToSniff (rule : RouteRule) (step : RuleStep) : Prop :=
  (∃ action, rule.action = .sniff action) ∧ ∃ flow, step = .selected flow

lemma RouteOptions.network_apply (options : RouteOptions) (metadata : InboundContext) :
    (options.apply metadata).network = metadata.network := by
  unfold RouteOptions.apply
  cases options.overrideAddress <;> dsimp only <;> split_ifs <;> rfl

lemma RuleAction.network_applyOptions (action : RuleAction) (metadata : InboundContext) :
    (action.applyOptions metadata).network = metadata.network := by
  cases action with
  | route _ options | routeOptions options => exact options.network_apply metadata
  | bypass outbound options =>
    dsimp only [RuleAction.applyOptions]
    split_ifs
    · exact options.network_apply metadata
    · rfl
  | _ => rfl

lemma network_actionResolve {server : String} {metadata resolved : InboundContext}
    (h : actionResolve env server metadata = some resolved) :
    resolved.network = metadata.network := by
  unfold actionResolve at h
  split_ifs at h with hfqdn
  · cases h
    rfl
  · obtain ⟨addresses, -, rfl⟩ := Option.map_eq_some_iff.1 h
    rfl

/-- Actions that do not look at the connection do the same to both. -/
lemma RouteRule.act_agrees (h : pre.Agrees full) : rule.StopsToSniff (rule.act env true false pre) ∨
    (rule.act env true false pre).Agrees (rule.act env false false full) := by
  have hmetadata : rule.action.applyOptions pre.metadata =
      rule.action.applyOptions full.metadata := by rw [h.metadata]
  have hicmp : (rule.action.applyOptions full.metadata).network = "icmp" → full.input = .none := by
    rw [RuleAction.network_applyOptions]
    exact h.icmp
  unfold RouteRule.act
  rw [hmetadata]
  revert hicmp
  generalize rule.action.applyOptions full.metadata = metadata
  intro hicmp
  cases haction : rule.action with
  | route _ _ | reject _ | hijackDNS => exact .inr rfl
  | routeOptions _ | direct => exact .inr ⟨rfl, hicmp⟩
  | bypass outbound _ =>
    refine .inr ?_
    dsimp only
    split_ifs
    · exact ⟨rfl, hicmp⟩
    · rfl
  | sniff action =>
    dsimp only [if_true]
    by_cases hnet : metadata.network = "icmp"
    · -- Neither search has anything to sniff.
      refine .inr ?_
      rw [if_neg (not_not.2 hnet)]
      simp only [Bool.false_eq_true, if_false, Flow.sniff, hicmp hnet]
      exact ⟨rfl, fun _ => rfl⟩
    · rw [if_pos hnet]
      exact .inl ⟨⟨action, haction⟩, _, rfl⟩
  | resolve server =>
    refine .inr ?_
    dsimp only
    cases hresolve : actionResolve env server metadata with
    | none => trivial
    | some resolved =>
      refine ⟨rfl, fun hnet => hicmp ?_⟩
      rwa [network_actionResolve hresolve] at hnet

variable (env rule) in
lemma RouteRule.try_agrees (h : pre.Agrees full) : rule.StopsToSniff (rule.try env true false pre) ∨
    (rule.try env true false pre).Agrees (rule.try env false false full) := by
  unfold RouteRule.try
  dsimp only
  rw [h.metadata]
  split_ifs
  · exact RouteRule.act_agrees ⟨rfl, h.icmp⟩
  · exact .inr ⟨rfl, h.icmp⟩

def decision (result : Option (Option RouteRule × Flow)) :
    Option (Option RouteRule × InboundContext) :=
  result.map fun found => (found.1, found.2.metadata)

def EndsToSniff (result : Option (Option RouteRule × Flow)) : Prop :=
  ∃ rule action flow, result = some (some rule, flow) ∧ rule.action = .sniff action

lemma matchRules_agrees {rules : List RouteRule} (h : pre.Agrees full) :
    EndsToSniff (matchRules env true false rules pre) ∨
    decision (matchRules env true false rules pre) =
    decision (matchRules env false false rules full) := by
  induction rules generalizing pre full with
  | nil => exact .inr (by simp [matchRules, decision, h.metadata])
  | cons rule rules ih =>
    unfold matchRules
    obtain ⟨⟨action, haction⟩, flow, hstep⟩ | hstep := rule.try_agrees env h
    · rw [hstep]
      exact .inl ⟨rule, action, flow, rfl, haction⟩
    · revert hstep
      cases rule.try env true false pre <;> cases rule.try env false false full <;> intro hstep
      case fatal.fatal => exact .inr rfl
      case next.next => exact ih hstep
      case selected.selected => exact .inr (congrArg (fun m => some (some rule, m)) hstep)
      all_goals exact hstep.elim

/-- It ends at a sniff rule, or as the full search does. -/
theorem preMatch_agrees (env : RouteEnv) (metadata : InboundContext) (input : Input)
    (h : ∀ prepared ∈ preparedMetadata env metadata, prepared.network = "icmp" → input = .none) :
    EndsToSniff (matchRule env metadata true false .none) ∨
      decision (matchRule env metadata true false .none) =
        decision (matchRule env metadata false false input) := by
  unfold matchRule
  cases hprepared : preparedMetadata env metadata with
  | none => exact .inr rfl
  | some prepared => exact matchRules_agrees ⟨rfl, h prepared hprepared⟩

def portRouter : RouteEnv := { sniffingRouter [] with
    rules := [⟨.logical [] .and false, .routeOptions { overridePort := 853 }⟩,
      ⟨.logical [] .and false, .reject false⟩] }

theorem preMatch_agrees_port :
    (decision (matchRule portRouter { network := "tcp" } true false .none)).any
        (fun found => found.1.isSome && found.2.destination.port == 853) = true ∧
      (EndsToSniff (matchRule portRouter { network := "tcp" } true false .none) ∨
        decision (matchRule portRouter { network := "tcp" } true false .none) =
          decision (matchRule portRouter { network := "tcp" } false false (.stream ⟨[], []⟩))) := by
  refine ⟨by decide +kernel, preMatch_agrees _ _ _ ?_⟩
  rintro prepared ⟨⟩ hnet
  exact absurd hnet (by decide)

end SingBox
