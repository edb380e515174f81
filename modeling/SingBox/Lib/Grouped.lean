import Mathlib.Data.Fintype.Basic

/-!
# Grouped conditions

Each group that is not empty needs one predicate to hold; further predicates must all hold.
-/

/-- Predicates on `M`, in groups indexed by `ι` and outside the groups. -/
structure Grouped (ι M : Type*) where
  group : ι → List (M → Bool)
  others : List (M → Bool)

namespace Grouped
variable {ι M N : Type*} (c : Grouped ι M)

def present (i : ι) : Bool := !(c.group i).isEmpty

def satisfied (i : ι) (m : M) : Bool := (c.group i).any fun p => p m

def othersHold (m : M) : Bool := c.others.all fun p => p m

/-- Every group that is not empty is satisfied, and so are all predicates outside the groups. -/
def Holds (m : M) : Prop :=
  (∀ i, c.present i → c.satisfied i m) ∧ c.othersHold m

instance [Fintype ι] (c : Grouped ι M) (m : M) : Decidable (c.Holds m) :=
  inferInstanceAs (Decidable (_ ∧ _))

def merge (d : Grouped ι M) : Grouped ι M where
  group i := c.group i ++ d.group i
  others := c.others ++ d.others

variable (f : N → M)

def comap (c : Grouped ι M) : Grouped ι N where
  group i := (c.group i).map fun p => p ∘ f
  others := c.others.map fun p => p ∘ f

@[simp] lemma present_comap (i : ι) : (c.comap f).present i = c.present i := by
  simp [present, comap]

@[simp] lemma satisfied_comap (i : ι) (n : N) :
    (c.comap f).satisfied i n = c.satisfied i (f n) := by
  simp [satisfied, comap, List.any_map, Function.comp_def]

@[simp] lemma othersHold_comap (n : N) : (c.comap f).othersHold n = c.othersHold (f n) := by
  simp [othersHold, comap, List.all_map, Function.comp_def]

variable (d : Grouped ι M)

@[simp] lemma present_merge (i : ι) : (c.merge d).present i = (c.present i || d.present i) := by
  cases h : c.group i <;> simp [present, merge, h]

@[simp] lemma satisfied_merge (i : ι) (m : M) :
    (c.merge d).satisfied i m = (c.satisfied i m || d.satisfied i m) := by
  simp [satisfied, merge]

@[simp] lemma othersHold_merge (m : M) :
    (c.merge d).othersHold m = (c.othersHold m && d.othersHold m) := by
  simp [othersHold, merge]

/-- Each group of a side has to be satisfied by one of the two sides. -/
lemma holds_merge (m : M) :
    (c.merge d).Holds m ↔
    (∀ i, (c.present i || d.present i) → (c.satisfied i m || d.satisfied i m)) ∧
    c.othersHold m ∧ d.othersHold m := by
  simp [Holds]

end Grouped
