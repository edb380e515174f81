import Mathlib.Logic.Basic

/-!
# Tables

`Table.All P`: every entry satisfies `P`. Two tables in opposite directions are inverse if they hold
the same pairs.
-/

def Table (κ ε : Type*) := κ → Option ε

namespace Table
variable {κ ε : Type*} [DecidableEq κ]

def empty : Table κ ε := fun _ => none

def insert (t : Table κ ε) (key : κ) (entry : ε) : Table κ ε :=
  fun key' => if key' = key then some entry else t key'

def erase (t : Table κ ε) (key : κ) : Table κ ε := fun key' => if key' = key then none else t key'

def modify (t : Table κ ε) (key : κ) (f : ε → ε) : Table κ ε :=
  fun key' => if key' = key then (t key).map f else t key'

def All (P : κ → ε → Prop) (t : Table κ ε) : Prop := ∀ key entry, t key = some entry → P key entry

variable {P : κ → ε → Prop} {t : Table κ ε}

omit [DecidableEq κ] in
lemma all_empty : All P (empty : Table κ ε) := by
  intro key entry h
  simp [empty] at h

variable {key : κ}

lemma All.insert (h : All P t) {entry : ε} (hent : P key entry) : All P (t.insert key entry) := by
  intro key' entry' h'
  by_cases hkey : key' = key
  · subst hkey
    obtain rfl : entry = entry' := by simpa [Table.insert] using h'
    exact hent
  · exact h key' entry' (by simpa [Table.insert, hkey] using h')

lemma All.erase (h : All P t) (key : κ) : All P (t.erase key) := by
  intro key' entry' h'
  by_cases hkey : key' = key
  · simp [Table.erase, hkey] at h'
  · exact h key' entry' (by simpa [Table.erase, hkey] using h')

lemma All.modify (h : All P t) {f : ε → ε}
    (hf : ∀ entry, P key entry → P key (f entry)) : All P (t.modify key f) := by
  intro key' entry' h'
  by_cases hkey : key' = key
  · subst hkey
    obtain ⟨entry, hent, rfl⟩ : ∃ entry, t key' = some entry ∧ f entry = entry' := by
      simpa [Table.modify] using h'
    exact hf entry (h key' entry hent)
  · exact h key' entry' (by simpa [Table.modify, hkey] using h')

/-- Holds after an insertion if it held before and holds after the same one into some other table.-/
def Pointwise (p : Table κ ε → Prop) : Prop :=
  ∀ (t t' : Table κ ε) key entry, p t → p (t'.insert key entry) → p (t.insert key entry)

lemma insert_self (t : Table κ ε) (key : κ) (entry : ε) : t.insert key entry key = some entry := by
  simp [Table.insert]

lemma insert_of_ne (t : Table κ ε) {key' : κ} (entry : ε) (h : key' ≠ key) :
    t.insert key entry key' = t key' := by
  simp [Table.insert, h]

lemma Pointwise.const (q : Prop) : Pointwise fun _ : Table κ ε => q := fun _ _ _ _ h _ => h

lemma Pointwise.entry (key : κ) (P : Option ε → Prop) :
    Pointwise fun t : Table κ ε => P (t key) := by
  intro t t' key' entry h h'
  by_cases hkey : key = key'
  · subst hkey
    simp only [insert_self] at h' ⊢
    exact h'
  · simp only [insert_of_ne _ _ hkey]
    exact h

lemma Pointwise.and {p q : Table κ ε → Prop} (hp : Pointwise p) (hq : Pointwise q) :
    Pointwise fun t => p t ∧ q t :=
  fun t t' key entry h h' => ⟨hp t t' key entry h.1 h'.1, hq t t' key entry h.2 h'.2⟩

lemma Pointwise.forall {α : Sort*} {p : α → Table κ ε → Prop} (h : ∀ a, Pointwise (p a)) :
    Pointwise fun t => ∀ a, p a t :=
  fun t t' key entry hp hp' a => h a t t' key entry (hp a) (hp' a)

section Inverse
variable [DecidableEq ε]

omit [DecidableEq κ] [DecidableEq ε] in
def Inverse (t : Table κ ε) (u : Table ε κ) : Prop :=
  ∀ key entry, t key = some entry ↔ u entry = some key

/-- The table `u` without the entry that `t` has for the key. -/
def free (t : Table κ ε) (u : Table ε κ) (key : κ) : Table ε κ :=
  match t key with
  | some old => u.erase old
  | none => u

variable {u : Table ε κ} {entry : ε} {key' key : κ}

omit [DecidableEq κ] in
lemma free_eq_some_iff (key : κ) :
    t.free u key entry = some key' ↔ t key ≠ some entry ∧ u entry = some key' := by
  cases hold : t key with
  | none => simp [free, hold]
  | some old =>
    by_cases hent : entry = old
    · simp [free, hold, hent, Table.erase]
    · have hne : ¬old = entry := fun h => hent h.symm
      simp [free, hold, hent, hne, Table.erase]

omit [DecidableEq κ] in
lemma Inverse.free_of_ne (h : Inverse t u) (hne : key' ≠ key)
    : t.free u key entry = some key' ↔ u entry = some key' := by
  rw [free_eq_some_iff]
  refine and_iff_right_of_imp fun hent hkey => hne ?_
  have hkey' : u entry = some key := (h key entry).1 hkey
  rw [hent] at hkey'
  exact Option.some.inj hkey'

lemma Inverse.rebind (h : Inverse t u) (hunused : u entry = none) :
    Inverse (t.insert key entry) ((t.free u key).insert entry key) := by
  intro key' entry'
  by_cases hkey : key' = key
  · subst hkey
    by_cases hent : entry' = entry
    · subst hent
      simp [insert_self]
    · -- the old entry of the key is gone
      have hgone : t.free u key' entry' ≠ some key' := by
        intro hfree
        obtain ⟨hne, hent'⟩ := (free_eq_some_iff key').1 hfree
        exact hne ((h key' entry').2 hent')
      rw [insert_self, insert_of_ne _ _ hent]
      exact ⟨fun hsame => absurd (Option.some.inj hsame).symm hent,
        fun hfree => absurd hfree hgone⟩
  · rw [insert_of_ne _ _ hkey, h key' entry']
    by_cases hent : entry' = entry
    · subst hent
      rw [insert_self, hunused]
      refine ⟨fun hnone => ?_, fun hsame => absurd (Option.some.inj hsame).symm hkey⟩
      cases hnone
    · rw [insert_of_ne _ _ hent, h.free_of_ne hkey]

end Inverse

end Table
