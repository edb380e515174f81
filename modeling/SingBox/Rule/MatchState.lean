import SingBox.Lib.BitMask

/-!
# Match states and sets of match states

A state has a bit for each of the four groups; a set of them is a word with sixteen bits. A rule
matches when its set is not empty.
-/

namespace SingBox
open BitVec BitMask

/-- The grouped conditions already satisfied: four bits of a byte in the source. -/
abbrev RuleMatchState := BitVec 4

def ruleMatchSourceAddress : RuleMatchState := 1#4

def ruleMatchSourcePort : RuleMatchState := 2#4

def ruleMatchDestinationAddress : RuleMatchState := 4#4

def ruleMatchDestinationPort : RuleMatchState := 8#4

namespace RuleMatchState

def has (s target : RuleMatchState) : Bool := s &&& target != 0#4

def Subset (s t : RuleMatchState) : Prop := s ||| t = t

instance (s t : RuleMatchState) : Decidable (Subset s t) :=
  inferInstanceAs (Decidable (s ||| t = t))

end RuleMatchState

/-- A word of sixteen bits, one for each state. -/
@[ext] structure RuleMatchStateSet where
  word : BitVec 16
deriving DecidableEq

def allRuleMatchStates : List RuleMatchState := (List.range 16).map (BitVec.ofNat 4)

def singleRuleMatchState (state : RuleMatchState) : RuleMatchStateSet := ⟨1#16 <<< state.toNat⟩

def emptyRuleMatchState : RuleMatchStateSet := singleRuleMatchState 0#4

namespace RuleMatchStateSet

def noMatch : RuleMatchStateSet := ⟨0#16⟩

variable (s : RuleMatchStateSet)

def isEmpty : Bool := s.word == 0#16

variable (state : RuleMatchState)

def contains : Bool := s.word &&& 1#16 <<< state.toNat != 0#16

def add : RuleMatchStateSet := ⟨s.word ||| (singleRuleMatchState state).word⟩

def merge (other : RuleMatchStateSet) : RuleMatchStateSet := ⟨s.word ||| other.word⟩

def combine (other : RuleMatchStateSet) : RuleMatchStateSet :=
  if s.isEmpty || other.isEmpty then noMatch
  else
    allRuleMatchStates.foldl (fun combined left =>
      if !s.contains left then combined
      else
        allRuleMatchStates.foldl (fun combined right =>
          if !other.contains right then combined else combined.add (left ||| right)) combined)
    noMatch

def withBase (s : RuleMatchStateSet) (base : RuleMatchState) : RuleMatchStateSet :=
  if s.isEmpty then noMatch
  else
    allRuleMatchStates.foldl (fun withBase state =>
      if !s.contains state then withBase else withBase.add (state ||| base)) noMatch

variable (allowed : RuleMatchState → Bool)

def filter : RuleMatchStateSet := allRuleMatchStates.foldl (fun filtered state =>
    if !s.contains state then filtered
    else if allowed state then filtered.add state else filtered) noMatch

variable (x : RuleMatchState)

lemma contains_eq_getLsbD : s.contains x = s.word.getLsbD x.toNat :=
  and_one_shiftLeft_ne_zero s.word x.toNat x.isLt

lemma mem_allRuleMatchStates : x ∈ allRuleMatchStates := by
  revert x
  decide

@[simp] lemma contains_noMatch : noMatch.contains x = false := by
  rw [contains_eq_getLsbD]
  exact getLsbD_zero

@[simp] lemma contains_add (y x : RuleMatchState) :
    (s.add y).contains x = (s.contains x || decide (x = y)) := by
  rw [contains_eq_getLsbD, contains_eq_getLsbD, add, singleRuleMatchState,
    getLsbD_or_one_shiftLeft s.word y.toNat x.toNat y.isLt]
  simp [toNat_inj]

@[simp] lemma contains_singleRuleMatchState (y x : RuleMatchState) :
    (singleRuleMatchState y).contains x = decide (x = y) := by
  rw [contains_eq_getLsbD, singleRuleMatchState, getLsbD_one_shiftLeft y.toNat x.toNat y.isLt]
  simp [toNat_inj]

@[simp] lemma contains_emptyRuleMatchState : emptyRuleMatchState.contains x = decide (x = 0#4) :=
  contains_singleRuleMatchState 0#4 x

@[simp] lemma contains_merge (t : RuleMatchStateSet) :
    (s.merge t).contains x = (s.contains x || t.contains x) := by
  rw [contains_eq_getLsbD, contains_eq_getLsbD, contains_eq_getLsbD, merge, getLsbD_or]

/-- The loop rule of `BitMask` for sets of states: a loop contains what one of its rounds adds. -/
lemma contains_foldl {α : Type*} (step : RuleMatchStateSet → α → RuleMatchStateSet)
    (q : α → Bool) (x : RuleMatchState)
    (hstep : ∀ m a, (step m a).contains x = (m.contains x || q a)) (l : List α)
    (m : RuleMatchStateSet) :
    (l.foldl step m).contains x = (m.contains x || l.any q) := by
  have hword : (l.foldl step m).word = l.foldl (fun word a => (step ⟨word⟩ a).word) m.word := by
    induction l generalizing m with
    | nil => rfl
    | cons a l ih => exact ih (step m a)
  simp only [contains_eq_getLsbD] at hstep ⊢
  rw [hword]
  exact getLsbD_foldl _ q x.toNat (fun word a => hstep ⟨word⟩ a) l m.word

lemma isEmpty_eq_false_iff : s.isEmpty = false ↔ ∃ x, s.contains x := by
  have hne : s.isEmpty = false ↔ s.word ≠ 0#16 := by simp [isEmpty]
  rw [hne, ne_zero_iff]
  constructor
  · rintro ⟨i, hi, hbit⟩
    refine ⟨BitVec.ofNat 4 i, ?_⟩
    rw [contains_eq_getLsbD, toNat_ofNat, Nat.mod_eq_of_lt hi]
    exact hbit
  · rintro ⟨x, hx⟩
    rw [contains_eq_getLsbD] at hx
    exact ⟨x.toNat, x.isLt, hx⟩

lemma isEmpty_iff : s.isEmpty ↔ ∀ x, s.contains x = false := by
  rw [← Bool.not_eq_false, isEmpty_eq_false_iff]
  simp

lemma ext_contains {s t : RuleMatchStateSet} (h : ∀ x, s.contains x ↔ t.contains x) : s = t := by
  apply RuleMatchStateSet.ext
  apply eq_of_getLsbD_eq
  intro i hi
  have hbit := Bool.eq_iff_iff.2 (h (BitVec.ofNat 4 i))
  rw [contains_eq_getLsbD, contains_eq_getLsbD, toNat_ofNat, Nat.mod_eq_of_lt hi] at hbit
  exact hbit

lemma contains_combine (t : RuleMatchStateSet) (x : RuleMatchState) : (s.combine t).contains x ↔
    ∃ l r, s.contains l ∧ t.contains r ∧ x = l ||| r := by
  by_cases hemp : (s.isEmpty || t.isEmpty)
  · rw [combine, if_pos hemp]
    rw [Bool.or_eq_true, isEmpty_iff, isEmpty_iff] at hemp
    constructor
    · intro h
      simp at h
    · rintro ⟨l, r, hl, hr, -⟩
      rcases hemp with hs | ht
      · simp [hs l] at hl
      · simp [ht r] at hr
  · rw [combine, if_neg hemp]
    rw [contains_foldl _ (fun left => s.contains left &&
      allRuleMatchStates.any fun right => t.contains right && decide (x = left ||| right))]
    · simp [mem_allRuleMatchStates]
    · intro m left
      cases hl : s.contains left with
      | false => simp
      | true =>
        simp only [Bool.not_true, Bool.false_eq_true, if_false, Bool.true_and]
        rw [contains_foldl _ fun right => t.contains right && decide (x = left ||| right)]
        intro m right
        cases t.contains right <;> simp

lemma contains_withBase (base x : RuleMatchState) :
    (s.withBase base).contains x ↔ ∃ y, s.contains y ∧ x = y ||| base := by
  by_cases hemp : s.isEmpty
  · rw [withBase, if_pos hemp]
    rw [isEmpty_iff] at hemp
    simp [hemp]
  · rw [withBase, if_neg hemp]
    rw [contains_foldl _ fun y => s.contains y && decide (x = y ||| base)]
    · simp [mem_allRuleMatchStates]
    · intro m y
      cases s.contains y <;> simp

@[simp] lemma contains_filter : (s.filter allowed).contains x = (s.contains x && allowed x) := by
  have hloop : (s.filter allowed).contains x =
      allRuleMatchStates.any fun y => s.contains y && allowed y && decide (x = y) := by
    rw [filter, contains_foldl _ fun y => s.contains y && allowed y && decide (x = y)]
    · simp
    · intro m y
      cases s.contains y <;> cases allowed y <;> simp
  rw [hloop, Bool.eq_iff_iff]
  simp only [List.any_eq_true, Bool.and_eq_true, decide_eq_true_eq]
  constructor
  · rintro ⟨y, -, hy, rfl⟩
    exact hy
  · intro hx
    exact ⟨x, mem_allRuleMatchStates x, hx, rfl⟩

@[simp] lemma contains_emptyRuleMatchState_withBase (base x : RuleMatchState) :
    (emptyRuleMatchState.withBase base).contains x = decide (x = base) := by
  rw [Bool.eq_iff_iff, contains_withBase]
  simp

lemma isEmpty_combine (t : RuleMatchStateSet) :
    (s.combine t).isEmpty = (s.isEmpty || t.isEmpty) := by
  cases hemp : (s.isEmpty || t.isEmpty) with
  | true =>
    rw [combine, if_pos hemp]
    rfl
  | false =>
    obtain ⟨hs, ht⟩ := Bool.or_eq_false_iff.1 hemp
    obtain ⟨x, hx⟩ := (isEmpty_eq_false_iff s).1 hs
    obtain ⟨y, hy⟩ := (isEmpty_eq_false_iff t).1 ht
    exact (isEmpty_eq_false_iff _).2 ⟨x ||| y, (contains_combine s t _).2 ⟨x, y, hx, hy, rfl⟩⟩

lemma eq_noMatch_of_isEmpty {s : RuleMatchStateSet} (h : s.isEmpty) : s = noMatch :=
  RuleMatchStateSet.ext (by simpa [isEmpty, noMatch] using h)

@[simp] lemma isEmpty_noMatch : noMatch.isEmpty := rfl

@[simp] lemma isEmpty_emptyRuleMatchState_withBase (base : RuleMatchState) :
    (emptyRuleMatchState.withBase base).isEmpty = false :=
  (isEmpty_eq_false_iff _).2 ⟨base, by simp⟩

end RuleMatchStateSet

namespace RuleMatchState

lemma subset_iff (s t : RuleMatchState) : Subset s t ↔ ∀ i, s.getLsbD i → t.getLsbD i := by
  unfold Subset
  rw [eq_of_getLsbD_eq_iff]
  constructor
  · intro h i hs
    by_cases hi : i < 4
    · have hbit := h i hi
      rw [getLsbD_or, hs] at hbit
      simpa using hbit.symm
    · rw [getLsbD_of_ge s i (by omega)] at hs
      simp at hs
  · intro h i _
    rw [getLsbD_or]
    cases hs : s.getLsbD i with
    | false => simp
    | true => simp [h i hs]

lemma Subset.refl (s : RuleMatchState) : Subset s s := or_self

variable {s t u : RuleMatchState}

lemma Subset.trans (hst : Subset s t) (htu : Subset t u) : Subset s u := by
  rw [subset_iff] at hst htu ⊢
  exact fun i hi => htu i (hst i hi)

lemma subset_or_left (s t : RuleMatchState) : Subset s (s ||| t) := by
  rw [subset_iff]
  intro i hi
  simp [hi]

lemma subset_or_right (s t : RuleMatchState) : Subset t (s ||| t) := by
  rw [subset_iff]
  intro i hi
  simp [hi]

lemma or_subset (hs : Subset s u) (ht : Subset t u) : Subset (s ||| t) u := by
  rw [subset_iff] at hs ht ⊢
  intro i hi
  rw [getLsbD_or, Bool.or_eq_true] at hi
  exact hi.elim (hs i) (ht i)

lemma zero_subset (s : RuleMatchState) : Subset 0#4 s := zero_or

end RuleMatchState

end SingBox
