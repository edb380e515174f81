import Mathlib.Data.List.MinMax

/-!
# Selecting the most specific entry of a table

Of the entries that cover a key, those of the greatest rank have the value to use. The first or the
last match in an unknown order finds it exactly if all matching entries have it.
-/

namespace Specificity
open List
variable {κ β γ ι : Type*}

/-- It covers the key, and none that does is more specific. -/
structure MostSpecific (covers : κ → Prop) (rank : κ → ℕ) (entries : List (κ × β)) (e : κ × β) :
    Prop where
  mem : e ∈ entries
  covered : covers e.1
  le : ∀ e' ∈ entries, covers e'.1 → rank e'.1 ≤ rank e.1

/-- A lookup gives the value of the most specific entries, if any. -/
def Determined (covers : κ → Prop) (rank : κ → ℕ) (entries : List (κ × β))
    (lookup : ι → Option β) : Prop :=
  ∀ o, (∀ e, MostSpecific covers rank entries e → lookup o = some e.2) ∧
    ((∀ e ∈ entries, ¬covers e.1) → lookup o = none)

/-- A lookup that finds any of the matching entries. -/
structure AnyMatch (hit : κ → Prop) (entries : List (κ × β)) (lookup : ι → Option β) : Prop where
  found : ∀ o value, lookup o = some value → ∃ e ∈ entries, hit e.1 ∧ e.2 = value
  missed : ∀ o, lookup o = none → ∀ e ∈ entries, ¬hit e.1
  reached : ∀ e ∈ entries, hit e.1 → ∃ o, lookup o = some e.2

variable {covers hit : κ → Prop} {rank : κ → ℕ} {entries : List (κ × β)} {lookup : ι → Option β}

lemma exists_mostSpecific (rank : κ → ℕ) {e : κ × β} (hmem : e ∈ entries) (hcovers : covers e.1) :
    ∃ m, MostSpecific covers rank entries m := by
  classical
  have hfilter : e ∈ entries.filter fun e => covers e.1 :=
    mem_filter.2 ⟨hmem, decide_eq_true hcovers⟩
  cases hmax : (entries.filter fun e => covers e.1).argmax fun e => rank e.1 with
  | none =>
    rw [argmax_eq_none.1 hmax] at hfilter
    exact absurd hfilter not_mem_nil
  | some m =>
    obtain ⟨hm, hcoversm⟩ := mem_filter.1 (argmax_mem hmax)
    refine ⟨m, hm, of_decide_eq_true hcoversm, fun e' he' hcovers' => ?_⟩
    exact le_of_mem_argmax (f := fun e : κ × β => rank e.1)
      (mem_filter.2 ⟨he', decide_eq_true hcovers'⟩) hmax

/-- A lookup is determined exactly if something matches whenever something covers, and all matches
have the value. -/
lemma AnyMatch.determined_iff [Nonempty ι] (h : AnyMatch hit entries lookup) :
    Determined covers rank entries lookup ↔
    ((∃ e ∈ entries, covers e.1) ↔ ∃ e ∈ entries, hit e.1) ∧
    ∀ e ∈ entries, hit e.1 → ∀ m, MostSpecific covers rank entries m → e.2 = m.2 := by
  constructor
  · intro hdet
    refine ⟨⟨?_, ?_⟩, ?_⟩
    · rintro ⟨e, he, hcovers⟩
      obtain ⟨m, hm⟩ := exists_mostSpecific rank he hcovers
      obtain ⟨e', he', hhit, -⟩ := h.found (Classical.arbitrary ι) m.2 ((hdet _).1 m hm)
      exact ⟨e', he', hhit⟩
    · rintro ⟨e, he, hhit⟩
      by_contra hnone
      obtain ⟨o, ho⟩ := h.reached e he hhit
      have hmissed := (hdet o).2 fun e' he' hcovers => hnone ⟨e', he', hcovers⟩
      exact Option.some_ne_none _ (ho.symm.trans hmissed)
    · intro e he hhit m hm
      obtain ⟨o, ho⟩ := h.reached e he hhit
      exact Option.some.inj (ho.symm.trans ((hdet o).1 m hm))
  · rintro ⟨hiff, hagree⟩ o
    cases ho : lookup o with
    | none =>
      refine ⟨fun m hm => ?_, fun _ => rfl⟩
      obtain ⟨e, he, hhit⟩ := hiff.1 ⟨m, hm.mem, hm.covered⟩
      exact absurd hhit (h.missed o ho e he)
    | some value =>
      obtain ⟨e, he, hhit, rfl⟩ := h.found o value ho
      refine ⟨fun m hm => congrArg some (hagree e he hhit m hm), fun hnone => ?_⟩
      obtain ⟨e', he', hcovers⟩ := hiff.2 ⟨e, he, hhit⟩
      exact absurd hcovers (hnone e' he')

lemma anyMatch_find? [DecidablePred hit] :
    AnyMatch hit entries fun order : {order : List (κ × β) // order.Perm entries} =>
    (order.1.find? fun e => decide (hit e.1)).map Prod.snd where
  found := by
    rintro ⟨order, horder⟩ value hval
    obtain ⟨e, he, rfl⟩ := Option.map_eq_some_iff.1 hval
    exact ⟨e, horder.mem_iff.1 (mem_of_find?_eq_some he),
      of_decide_eq_true (find?_some he :), rfl⟩
  missed := by
    rintro ⟨order, horder⟩ hnone e he
    rw [Option.map_eq_none_iff, find?_eq_none] at hnone
    exact fun hhit => hnone e (horder.mem_iff.2 he) (decide_eq_true hhit)
  reached := by
    intro e he hhit
    obtain ⟨before, after, rfl⟩ := append_of_mem he
    refine ⟨⟨e :: (before ++ after), perm_middle.symm⟩, ?_⟩
    rw [find?_cons_of_pos (by exact decide_eq_true hhit)]
    rfl

/-- The last object with a matching key counts, in any order of the objects. -/
lemma anyMatch_getLast? {objects : List γ} {keys : γ → List κ} {value : γ → β} {test : γ → Bool}
    (htest : ∀ x, test x ↔ ∃ key ∈ keys x, hit key) :
    AnyMatch hit (objects.flatMap fun x => (keys x).map fun key => (key, value x))
    fun order : {order : List γ // order.Perm objects} =>
    (order.1.filter test).getLast?.map value where
  found := by
    rintro ⟨order, horder⟩ v hv
    obtain ⟨x, hx, rfl⟩ := Option.map_eq_some_iff.1 hv
    obtain ⟨hmem, hm⟩ := mem_filter.1 (mem_of_getLast? hx)
    obtain ⟨key, hkey, hhit⟩ := (htest x).1 hm
    exact ⟨(key, value x), mem_flatMap.2
      ⟨x, horder.mem_iff.1 hmem, mem_map_of_mem hkey⟩, hhit, rfl⟩
  missed := by
    rintro ⟨order, horder⟩ hnone e he hhit
    obtain ⟨x, hx, hex⟩ := mem_flatMap.1 he
    obtain ⟨key, hkey, rfl⟩ := mem_map.1 hex
    rw [Option.map_eq_none_iff, getLast?_eq_none_iff, filter_eq_nil_iff] at hnone
    exact hnone x (horder.mem_iff.2 hx) ((htest x).2 ⟨key, hkey, hhit⟩)
  reached := by
    intro e he hhit
    obtain ⟨x, hx, hex⟩ := mem_flatMap.1 he
    obtain ⟨key, hkey, rfl⟩ := mem_map.1 hex
    obtain ⟨before, after, rfl⟩ := append_of_mem hx
    have hm : test x := (htest x).2 ⟨key, hkey, hhit⟩
    refine ⟨⟨before ++ after ++ [x], ?_⟩, ?_⟩
    · exact (perm_append_singleton x _).trans perm_middle.symm
    · rw [filter_append, filter_singleton, hm]
      exact congrArg (Option.map value) getLast?_concat

end Specificity
