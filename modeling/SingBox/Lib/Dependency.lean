import Mathlib.Data.Set.Finite.Basic
import Mathlib.Order.WellFounded

/-!
# Dependencies

`r a b`: `a` depends on `b`. Without a cycle, every finite set has an element that depends on
nothing in it.
-/

namespace Dependency
open List
variable {α : Type*} {r : α → α → Prop}

/-- No element depends on itself by a chain of dependencies. -/
def Acyclic (r : α → α → Prop) : Prop := ∀ a, ¬Relation.TransGen r a a

/-- Every element of the list comes after everything it depends on. -/
def Ordered (r : α → α → Prop) (order : List α) : Prop :=
  ∀ before a after, order = before ++ a :: after → ∀ b, r a b → b ∈ before

lemma ordered_nil : Ordered r [] := by
  intro before a after h
  simp at h

lemma Ordered.concat {order : List α} (h : Ordered r order) {a : α}
    (hdeps : ∀ b, r a b → b ∈ order) : Ordered r (order ++ [a]) := by
  intro before c after hsplit b hb
  rcases eq_nil_or_concat after with rfl | ⟨rest, d, rfl⟩
  · obtain ⟨rfl, hlast⟩ := append_inj' hsplit rfl
    obtain rfl : a = c := by simpa using hlast
    exact hdeps b hb
  · have hsplit' : order ++ [a] = (before ++ c :: rest) ++ [d] := by
      rw [hsplit]
      simp
    obtain ⟨horder, -⟩ := append_inj' hsplit' rfl
    exact h before c rest horder b hb

lemma acyclic_of_rank (rank : α → ℕ) (h : ∀ a b, r a b → rank b < rank a) : Acyclic r := by
  have hchain : ∀ a b, Relation.TransGen r a b → rank b < rank a := by
    intro a b hab
    induction hab with
    | single hr => exact h _ _ hr
    | tail _ hr ih => exact (h _ _ hr).trans ih
  intro a ha
  exact lt_irrefl _ (hchain a a ha)

lemma Ordered.acyclic [DecidableEq α] {order : List α} (h : Ordered r order)
    (hall : ∀ a b, r a b → a ∈ order) : Acyclic r := by
  refine acyclic_of_rank (fun a => order.idxOf a) fun a b hab => ?_
  obtain ⟨before, after, hsplit, hnot⟩ := eq_append_cons_of_mem (hall a b hab)
  have hb : b ∈ before := h before a after hsplit b hab
  have hrank : order.idxOf a = before.length := by
    rw [hsplit, idxOf_append_of_notMem hnot, idxOf_cons_self, Nat.add_zero]
  have hrank' : order.idxOf b < before.length := by
    rw [hsplit, idxOf_append_of_mem hb]
    exact idxOf_lt_length_of_mem hb
  omega

lemma Acyclic.exists_sink (h : Acyclic r) {s : Set α} (hs : s.Finite) (hne : s.Nonempty) :
    ∃ a ∈ s, ∀ b ∈ s, ¬r a b := by
  have : Finite s := hs
  let after : s → s → Prop := fun b a => Relation.TransGen r a b
  have : IsTrans s after := ⟨fun a b c hab hbc => hbc.trans hab⟩
  have : Std.Irrefl after := ⟨fun a => h a⟩
  have hwf : WellFounded after := Finite.wellFounded_of_trans_of_irrefl after
  obtain ⟨x, hx⟩ := hne
  obtain ⟨⟨a, ha⟩, -, hmin⟩ := hwf.has_min Set.univ ⟨⟨x, hx⟩, trivial⟩
  refine ⟨a, ha, fun b hb hab => ?_⟩
  exact hmin ⟨b, hb⟩ trivial (Relation.TransGen.single hab)

end Dependency
