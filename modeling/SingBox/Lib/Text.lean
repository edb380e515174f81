import Mathlib.Data.List.Infix

/-!
# Texts as lists

Operations on texts, for lists over any type.
-/

namespace Text
open List
variable {α : Type*} [DecidableEq α]

def cut (sep : List α) : List α → Option (List α × List α)
  | [] => if sep = [] then some ([], []) else none
  | a :: s =>
    if sep <+: a :: s then some ([], (a :: s).drop sep.length)
    else (cut sep s).map fun parts => (a :: parts.1, parts.2)

def substringBefore (sep s : List α) : List α :=
  match cut sep s with
  | none => s
  | some parts => parts.1

def trimPrefix (pre s : List α) : List α := if pre <+: s then s.drop pre.length else s

def trimSuffix (suf s : List α) : List α := if suf <:+ s then s.take (s.length - suf.length) else s

section Lines
variable (newline ret : α) (limit : ℕ)

/-- `line` has been read. A line that is too long ends the text. -/
def scanLines : List α → List α → List (List α)
  | line, [] => if line = [] ∨ limit ≤ line.length then [] else [trimSuffix [ret] line]
  | line, a :: s =>
    if a = newline then
      if limit ≤ line.length then [] else trimSuffix [ret] line :: scanLines [] s
    else scanLines (line ++ [a]) s

end Lines

lemma splitOn_cons (a x : α) (s : List α) : ∃ part parts, s.splitOn a = part :: parts ∧
    (x :: s).splitOn a = if x = a then [] :: part :: parts else (x :: part) :: parts := by
  obtain ⟨part, parts, hs⟩ := exists_cons_of_ne_nil (splitOnP_ne_nil (· == a) s)
  refine ⟨part, parts, hs, ?_⟩
  rw [splitOn, splitOnP_cons_eq_if_modifyHead, hs]
  simp

lemma length_splitOn (a : α) (s : List α) : (s.splitOn a).length = s.count a + 1 := by
  induction s with
  | nil => rfl
  | cons x s ih =>
    obtain ⟨part, parts, hs, hcons⟩ := splitOn_cons a x s
    rw [hs] at ih
    rw [hcons]
    split_ifs with hx
    · rw [length_cons, ih, hx, count_cons_self]
    · rw [count_cons_of_ne hx]
      exact ih

lemma flatMap_splitOn (a : α) (s : List α) : (s.splitOn a).flatMap (· ++ [a]) = s ++ [a] := by
  induction s with
  | nil => rfl
  | cons x s ih =>
    obtain ⟨part, parts, hs, hcons⟩ := splitOn_cons a x s
    rw [hs] at ih
    rw [hcons]
    split_ifs with hx
    · rw [flatMap_cons, ih, hx]
      rfl
    · rw [flatMap_cons] at ih ⊢
      rw [cons_append, cons_append, ih, cons_append]

lemma not_mem_of_mem_splitOn {a : α} {s part : List α} (h : part ∈ s.splitOn a) : a ∉ part := by
  induction s generalizing part with
  | nil =>
    obtain rfl := mem_singleton.1 h
    exact not_mem_nil
  | cons x s ih =>
    obtain ⟨first, parts, hs, hcons⟩ := splitOn_cons a x s
    rw [hs] at ih
    rw [hcons] at h
    split_ifs at h with hx
    · obtain rfl | h := mem_cons.1 h
      · exact not_mem_nil
      · exact ih h
    · obtain rfl | h := mem_cons.1 h
      · have hfst := ih mem_cons_self
        simp [hfst, Ne.symm hx]
      · exact ih (mem_cons_of_mem _ h)

end Text
