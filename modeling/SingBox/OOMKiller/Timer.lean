import Mathlib.Algebra.Order.Ring.Nat

/-!
# The adaptive timer of the OOM killer

In memory-limit mode a trigger stays open until the usage is below the resume threshold, which is
zero if four safety margins are the whole limit.
-/

namespace SingBox.OOMKiller

inductive PressureState
  | normal
  | armed
  | triggered
  deriving DecidableEq

structure PressureThresholds where
  trigger : ℕ
  armed : ℕ
  resume : ℕ
  deriving DecidableEq

def computeLimitThresholds (memoryLimit safetyMargin : ℕ) : PressureThresholds :=
  let triggerMargin := min safetyMargin memoryLimit
  let armedMargin := min (triggerMargin * 2 % 2 ^ 64) memoryLimit
  let resumeMargin := min (triggerMargin * 4 % 2 ^ 64) memoryLimit
  ⟨memoryLimit - triggerMargin, memoryLimit - armedMargin, memoryLimit - resumeMargin⟩

def nextPressureState (current : PressureState)
    (shouldTrigger shouldArm shouldStayTriggered : Bool) : PressureState :=
  if current = .triggered then if shouldStayTriggered then .triggered else .normal
  else if shouldTrigger then .triggered
  else if shouldArm then .armed
  else .normal

variable (thresholds : PressureThresholds)

/-- The next state, and whether the sample triggers. -/
def poll (state : PressureState) (usage : ℕ) : PressureState × Bool :=
  let next := nextPressureState state (thresholds.trigger ≤ usage) (thresholds.armed ≤ usage)
    (thresholds.resume ≤ usage)
  (next, state ≠ .triggered ∧ next = .triggered)

def polls (samples : List ℕ) : PressureState :=
  samples.foldl (fun state usage => (poll thresholds state usage).1) .normal

/-- When a sample triggers, and when a trigger is open after it. -/
structure Hysteresis (samples : List ℕ) (usage : ℕ) : Prop where
  fires : (poll thresholds (polls thresholds samples) usage).2 ↔
    thresholds.trigger ≤ usage ∧ polls thresholds samples ≠ .triggered
  stays : polls thresholds (samples ++ [usage]) = .triggered ↔
    (poll thresholds (polls thresholds samples) usage).2 ∨
      polls thresholds samples = .triggered ∧ thresholds.resume ≤ usage

lemma hysteresis (samples : List ℕ) (usage : ℕ) : Hysteresis thresholds samples usage := by
  have hpolls : polls thresholds (samples ++ [usage]) =
      (poll thresholds (polls thresholds samples) usage).1 := by simp [polls]
  constructor
  all_goals
    try rw [hpolls]
    by_cases htrigger : thresholds.trigger ≤ usage <;>
      by_cases harmed : thresholds.armed ≤ usage <;>
      cases polls thresholds samples <;> simp [poll, nextPressureState, htrigger, harmed]

lemma computeLimitThresholds_eq {memoryLimit safetyMargin : ℕ} (hlimit : memoryLimit < 2 ^ 64)
    (hmargin : safetyMargin * 4 < memoryLimit) :
    computeLimitThresholds memoryLimit safetyMargin = ⟨memoryLimit - safetyMargin,
      memoryLimit - safetyMargin * 2, memoryLimit - safetyMargin * 4⟩ := by
  have htwo : safetyMargin * 2 < 2 ^ 64 := by omega
  simp only [computeLimitThresholds]
  rw [Nat.min_eq_left (by omega : safetyMargin ≤ memoryLimit), Nat.mod_eq_of_lt htwo,
    Nat.mod_eq_of_lt (hmargin.trans hlimit), Nat.min_eq_left hmargin.le, Nat.min_eq_left (by omega)]

/-- Out of order, also after an overflow. -/
lemma margin_lt_of_order {memoryLimit safetyMargin : ℕ} {t : PressureThresholds}
    (ht : t = computeLimitThresholds memoryLimit safetyMargin) (hlimit : memoryLimit < 2 ^ 64)
    (hresume : 0 < t.resume) (harmed : t.resume ≤ t.armed) (htrigger : t.armed ≤ t.trigger) :
    safetyMargin * 4 < memoryLimit := by
  subst ht
  simp only [computeLimitThresholds] at hresume harmed htrigger
  omega

/-- The thresholds are in order, and no use of memory at all enables triggering again, exactly if
four margins are less than the limit. -/
theorem thresholds_hysteresis {memoryLimit safetyMargin : ℕ} {t : PressureThresholds}
    (ht : t = computeLimitThresholds memoryLimit safetyMargin) (hlimit : memoryLimit < 2 ^ 64)
    (hpos : 0 < safetyMargin) :
    ((0 < t.resume ∧ t.resume ≤ t.armed ∧ t.armed ≤ t.trigger ∧ t.trigger < memoryLimit) ∧
      (∀ samples usage, Hysteresis t samples usage) ∧
      ∀ samples, polls t (samples ++ [0]) ≠ .triggered) ↔ safetyMargin * 4 < memoryLimit := by
  refine ⟨fun ⟨⟨hresume, harmed, htrigger, _⟩, _⟩ =>
    margin_lt_of_order ht hlimit hresume harmed htrigger, fun hmargin => ?_⟩
  have horder : 0 < t.resume ∧ t.resume ≤ t.armed ∧ t.armed ≤ t.trigger ∧
      t.trigger < memoryLimit := by
    rw [ht, computeLimitThresholds_eq hlimit hmargin]
    dsimp only
    omega
  refine ⟨horder, hysteresis t, fun samples hopen => ?_⟩
  obtain ⟨hfires, hstays⟩ := hysteresis t samples 0
  rw [hfires] at hstays
  obtain ⟨htrigger, -⟩ | ⟨-, hresume⟩ := hstays.1 hopen <;> omega

theorem thresholds_hysteresis_eight :
    let t := computeLimitThresholds 8 1
    t = ⟨7, 6, 4⟩ ∧ polls t [7] = .triggered ∧ polls t ([7] ++ [0]) ≠ .triggered :=
  ⟨rfl, rfl, ((thresholds_hysteresis rfl (by decide) Nat.one_pos).2 (by decide)).2.2 [7]⟩

/-- With a limit of four margins the resume threshold is zero and a trigger stays open; with larger
margins the multiples overflow. -/
theorem not_thresholds_hysteresis :
    let t := computeLimitThresholds 4 1
    t = ⟨3, 2, 0⟩ ∧ polls t [3, 0, 0] = .triggered ∧
      computeLimitThresholds (2 ^ 63) (2 ^ 62) = ⟨2 ^ 62, 0, 2 ^ 63⟩ := by
  decide

end SingBox.OOMKiller
