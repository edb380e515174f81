import Mathlib.Algebra.Ring.Nat
import Mathlib.Order.Interval.Finset.Nat

/-!
# Pieces of a list

`follow` looks for the piece at index 0, then for the one that begins where this one stops, and so
on.
-/

namespace Tiling
open List

/-! ### Pieces -/

variable {α : Type}

structure Piece (α : Type) where
  offset : ℕ
  data : List α

open Piece

def Piece.stop (p : Piece α) : ℕ := p.offset + p.data.length

def Piece.Of (whole : List α) (p : Piece α) : Prop :=
  p.stop ≤ whole.length ∧ (whole.drop p.offset).take p.data.length = p.data

def Apart (p q : Piece α) : Prop := p.stop ≤ q.offset ∨ q.stop ≤ p.offset

instance : Std.Symm (@Apart α) := ⟨fun _ _ => Or.symm⟩

/-- Parts of a list that are not empty and do not overlap. -/
structure Parts (whole : List α) (pieces : List (Piece α)) : Prop where
  ne_nil : ∀ p ∈ pieces, p.data ≠ []
  of : ∀ p ∈ pieces, p.Of whole
  apart : pieces.Pairwise Apart

structure IsPartition (whole : List α) (pieces : List (Piece α)) : Prop
    extends Parts whole pieces where
  covered : ∀ i < whole.length, ∃ p ∈ pieces, p.offset ≤ i ∧ i < p.stop

def total (pieces : List (Piece α)) : ℕ := (pieces.map (·.data.length)).sum

variable {whole : List α} {pieces pieces' : List (Piece α)}

lemma IsPartition.perm (h : IsPartition whole pieces) (hperm : pieces.Perm pieces') :
    IsPartition whole pieces' where
  ne_nil p hp := h.ne_nil p (hperm.mem_iff.2 hp)
  of p hp := h.of p (hperm.mem_iff.2 hp)
  apart := (hperm.pairwise_iff (Std.Symm.symm _ _)).1 h.apart
  covered i hi := by
    obtain ⟨p, hp, hcovers⟩ := h.covered i hi
    exact ⟨p, hperm.mem_iff.1 hp, hcovers⟩

lemma Parts.left (h : Parts whole (pieces ++ pieces')) : Parts whole pieces where
  ne_nil p hp := h.ne_nil p (mem_append_left _ hp)
  of p hp := h.of p (mem_append_left _ hp)
  apart := (pairwise_append.1 h.apart).1

lemma Parts.right (h : Parts whole (pieces ++ pieces')) : Parts whole pieces' where
  ne_nil p hp := h.ne_nil p (mem_append_right _ hp)
  of p hp := h.of p (mem_append_right _ hp)
  apart := (pairwise_append.1 h.apart).2.1

variable {n fuel : ℕ} {s : Finset ℕ} {p : Piece α}

lemma isPartition_cut (hpos : 0 < n) (hlt : n < whole.length) :
    IsPartition whole [⟨n, whole.drop n⟩, ⟨0, whole.take n⟩] where
  ne_nil := by
    simp only [forall_mem_cons, ne_eq, drop_eq_nil_iff, take_eq_nil_iff]
    refine ⟨by omega, ?_, by simp⟩
    rintro (h | rfl)
    · omega
    · simp at hlt
  of := by
    simp only [forall_mem_cons, Piece.Of, stop, length_drop, length_take,
      zero_add, drop_zero]
    refine ⟨⟨by omega, take_of_length_le (by rw [length_drop])⟩, ⟨by omega, ?_⟩, by simp⟩
    rw [Nat.min_eq_left hlt.le]
  apart := by
    refine pairwise_pair.2 (.inr ?_)
    rw [stop, zero_add, length_take]
    exact Nat.min_le_left _ _
  covered i hi := by
    by_cases hin : i < n
    · refine ⟨⟨0, whole.take n⟩, by simp, Nat.zero_le i, ?_⟩
      rw [stop, Nat.zero_add, length_take]
      omega
    · refine ⟨⟨n, whole.drop n⟩, by simp, Nat.le_of_not_lt hin, ?_⟩
      rw [stop, length_drop]
      dsimp only
      omega

/-! ### Their lengths -/

lemma total_cons : total (p :: pieces) = p.data.length + total pieces := by
  rw [total, map_cons, sum_cons, total]

lemma total_append (pieces pieces' : List (Piece α)) :
    total (pieces ++ pieces') = total pieces + total pieces' := by
  rw [total, map_append, sum_append, total, total]

lemma total_pos (hne : ∀ p ∈ pieces, p.data ≠ []) (h : pieces ≠ []) : 0 < total pieces := by
  cases pieces with
  | nil => exact absurd rfl h
  | cons p pieces =>
    have hp : 0 < p.data.length := length_pos_iff.2 (hne p mem_cons_self)
    rw [total_cons]
    omega

lemma card_le_total (h : ∀ i ∈ s, ∃ p ∈ pieces, p.offset ≤ i ∧ i < p.stop) :
    s.card ≤ total pieces := by
  induction pieces generalizing s with
  | nil =>
    have hs : s = ∅ := Finset.eq_empty_of_forall_notMem fun i hi => by
      obtain ⟨p, hp, -⟩ := h i hi
      cases hp
    rw [hs, Finset.card_empty]
    exact Nat.zero_le _
  | cons p pieces ih =>
    -- the indexes in the first piece, and the others
    have hrest : (s \ Finset.Ico p.offset p.stop).card ≤ total pieces := by
      refine ih fun i hi => ?_
      obtain ⟨his, hip⟩ := Finset.mem_sdiff.1 hi
      obtain ⟨q, hq, hcovers⟩ := h i his
      obtain rfl | hq := mem_cons.1 hq
      · exact absurd (Finset.mem_Ico.2 hcovers) hip
      · exact ⟨q, hq, hcovers⟩
    have hcard : (Finset.Ico p.offset p.stop).card = p.data.length := by
      rw [Nat.card_Ico, stop, Nat.add_sub_cancel_left]
    have hle : s.card ≤ (s \ Finset.Ico p.offset p.stop).card +
        (Finset.Ico p.offset p.stop).card := Finset.card_le_card_sdiff_add_card
    rw [total_cons]
    omega

lemma total_le_card (hs : ∀ p ∈ pieces, Finset.Ico p.offset p.stop ⊆ s)
    (h : pieces.Pairwise Apart) : total pieces ≤ s.card := by
  induction pieces generalizing s with
  | nil => exact Nat.zero_le _
  | cons p pieces ih =>
    obtain ⟨hp, hpieces⟩ := pairwise_cons.1 h
    have hsub : Finset.Ico p.offset p.stop ⊆ s := hs p mem_cons_self
    have hrest : total pieces ≤ (s \ Finset.Ico p.offset p.stop).card := by
      refine ih (fun q hq i hi => Finset.mem_sdiff.2 ⟨hs q (mem_cons_of_mem p hq) hi, ?_⟩)
        hpieces
      intro hip
      have hi' := Finset.mem_Ico.1 hi
      have hip' := Finset.mem_Ico.1 hip
      obtain happ | happ := hp q hq
      · omega
      · omega
    have hcard : (Finset.Ico p.offset p.stop).card = p.data.length := by
      rw [Nat.card_Ico, stop, Nat.add_sub_cancel_left]
    have hsplit := Finset.card_sdiff_add_card_eq_card hsub
    rw [total_cons]
    omega

lemma IsPartition.total_eq (h : IsPartition whole pieces) : total pieces = whole.length := by
  apply le_antisymm
  · have hle : total pieces ≤ (Finset.range whole.length).card := by
      refine total_le_card (fun p hp i hi => ?_) h.apart
      have hstop := (h.of p hp).1
      have hi' := Finset.mem_Ico.1 hi
      exact Finset.mem_range.2 (by omega)
    rwa [Finset.card_range] at hle
  · have hle : (Finset.range whole.length).card ≤ total pieces :=
      card_le_total fun i hi => h.covered i (Finset.mem_range.1 hi)
    rwa [Finset.card_range] at hle

lemma IsPartition.total_lt (h : IsPartition whole (pieces ++ pieces')) (hne : pieces' ≠ []) :
    total pieces < whole.length := by
  have hpos : 0 < total pieces' := total_pos h.toParts.right.ne_nil hne
  have htotal := h.total_eq
  rw [total_append] at htotal
  omega

/-! ### Following them -/

def follow (pieces : List (Piece α)) : ℕ → ℕ → Option (List α)
  | 0, _ => none
  | fuel + 1, index =>
    match pieces.find? (·.offset = index) with
    | none => some []
    | some p => (follow pieces fuel p.stop).map (p.data ++ ·)

/-- The indexes before `n` lie in pieces that stop there. -/
def Filled (pieces : List (Piece α)) (n : ℕ) : Prop :=
  ∀ i < n, ∃ p ∈ pieces, p.offset ≤ i ∧ i < p.stop ∧ p.stop ≤ n

lemma Filled.stop (h : Filled pieces n) (hp : p ∈ pieces)
    (hoff : p.offset = n) : Filled pieces p.stop := by
  have hle : n ≤ p.stop := by
    rw [Piece.stop]
    omega
  intro i hi
  by_cases hin : i < n
  · obtain ⟨q, hq, hfrom, hto, hstop⟩ := h i hin
    exact ⟨q, hq, hfrom, hto, hstop.trans hle⟩
  · exact ⟨p, hp, by omega, hi, le_rfl⟩

lemma Piece.Of.take_append (h : p.Of whole) :
    whole.take p.offset ++ p.data = whole.take p.stop := by
  rw [stop, take_add, h.2]

/-- Each begins where the one before stops, the first at the index. -/
def Chain (pieces : List (Piece α)) : ℕ → List (Piece α) → Prop
  | _, [] => True
  | index, p :: chain => p ∈ pieces ∧ p.offset = index ∧ Chain pieces p.stop chain

variable {index : ℕ} {chain : List (Piece α)} {data : List α}

lemma index_add (hoff : p.offset = index) :
    index + ((p :: chain).flatMap Piece.data).length =
    p.stop + (chain.flatMap Piece.data).length := by
  rw [flatMap_cons, length_append, ← add_assoc, ← hoff, stop]

lemma Chain.filled (h : Chain pieces index chain) (hfilled : Filled pieces index) :
    Filled pieces (index + (chain.flatMap Piece.data).length) := by
  induction chain generalizing index with
  | nil => exact hfilled
  | cons p chain ih =>
    obtain ⟨hp, hoff, hchain⟩ := h
    rw [index_add hoff]
    exact ih hchain (hfilled.stop hp hoff)

lemma Chain.take_append (h : Chain pieces index chain) (hof : ∀ p ∈ pieces, p.Of whole)
    (hidx : index ≤ whole.length) :
    whole.take index ++ chain.flatMap Piece.data =
    whole.take (index + (chain.flatMap Piece.data).length) ∧
    index + (chain.flatMap Piece.data).length ≤ whole.length := by
  induction chain generalizing index with
  | nil => exact ⟨append_nil _, hidx⟩
  | cons p chain ih =>
    obtain ⟨hp, hoff, hchain⟩ := h
    rw [index_add hoff, flatMap_cons, ← append_assoc, ← hoff, (hof p hp).take_append]
    exact ih hchain (hof p hp).1

lemma Chain.length_le_total (h : Chain pieces 0 chain) :
    (chain.flatMap Piece.data).length ≤ total pieces := by
  have hfilled := h.filled fun i hi => absurd hi (Nat.not_lt_zero i)
  rw [zero_add] at hfilled
  have hcard : (Finset.range (chain.flatMap data).length).card ≤ total pieces := by
    refine card_le_total fun i hi => ?_
    obtain ⟨p, hp, hfrom, hto, -⟩ := hfilled i (Finset.mem_range.1 hi)
    exact ⟨p, hp, hfrom, hto⟩
  rwa [Finset.card_range] at hcard

/-! ### Pieces that hide others -/

/-- No piece before it has the same offset. -/
def First (pieces : List (Piece α)) (p : Piece α) : Prop :=
  pieces.find? (·.offset = p.offset) = some p

/-- A chain of first pieces that are not empty. No piece begins where it ends, and a chain that
leaves it by a hidden piece does not get farther. -/
structure Leading (pieces chain : List (Piece α)) : Prop where
  isChain : Chain pieces 0 chain
  first : ∀ p ∈ chain, First pieces p ∧ p.data ≠ []
  gap : ∀ p ∈ pieces, p.offset ≠ 0 + (chain.flatMap Piece.data).length
  hidden : ∀ before p after, Chain pieces 0 (before ++ p :: after) →
    (∀ q ∈ before, First pieces q) → ¬First pieces p →
    ((before ++ p :: after).flatMap Piece.data).length ≤ (chain.flatMap Piece.data).length

variable {chain' : List (Piece α)}

lemma follow_of_empty (hfirst : First pieces p) (hnil : p.data = []) (fuel : ℕ) :
    follow pieces fuel p.offset = none := by
  induction fuel with
  | zero => rfl
  | succ fuel ih =>
    have hstop : p.stop = p.offset := by simp [Piece.stop, hnil]
    rw [follow, hfirst]
    dsimp only
    rw [hstop, ih, Option.map_none]

/-- What is followed to an end is a chain of first pieces. -/
lemma chain_of_follow (h : follow pieces fuel index = some data) :
    ∃ chain, data = chain.flatMap Piece.data ∧ Chain pieces index chain ∧
    (∀ p ∈ chain, First pieces p ∧ p.data ≠ []) ∧
    ∀ p ∈ pieces, p.offset ≠ index + (chain.flatMap Piece.data).length := by
  induction fuel generalizing index data with
  | zero => cases h
  | succ fuel ih =>
    have hnext := h
    rw [follow] at hnext
    cases hfind : pieces.find? (·.offset = index) with
    | none =>
      rw [hfind] at hnext
      refine ⟨[], (Option.some.inj hnext).symm, trivial, nofun, fun p hp hoff => ?_⟩
      exact find?_eq_none.1 hfind p hp (decide_eq_true hoff)
    | some p =>
      have hoff : p.offset = index := by simpa using find?_some hfind
      have hfirst : First pieces p := by rwa [First, hoff]
      have hdata : p.data ≠ [] := fun hnil => by
        rw [← hoff, follow_of_empty hfirst hnil] at h
        cases h
      simp only [hfind, Option.map_eq_some_iff] at hnext
      obtain ⟨rest, hrest, rfl⟩ := hnext
      obtain ⟨chain, rfl, hchain, hfirsts, hgap⟩ := ih hrest
      refine ⟨p :: chain, rfl, ⟨mem_of_find?_eq_some hfind, hoff, hchain⟩, ?_, ?_⟩
      · exact forall_mem_cons.2 ⟨⟨hfirst, hdata⟩, hfirsts⟩
      · rwa [index_add hoff]

lemma Chain.follow (h : Chain pieces index chain) (hfirst : ∀ p ∈ chain, First pieces p)
    (hgap : ∀ p ∈ pieces, p.offset ≠ index + (chain.flatMap Piece.data).length) :
    follow pieces (chain.length + 1) index = some (chain.flatMap Piece.data) := by
  induction chain generalizing index with
  | nil =>
    have hnone : pieces.find? (·.offset = index) = none :=
      find?_eq_none.2 fun p hp hoff => hgap p hp (of_decide_eq_true hoff)
    rw [Tiling.follow, hnone]
    rfl
  | cons p chain ih =>
    obtain ⟨hp, rfl, hchain⟩ := h
    obtain ⟨hfind, hfirst⟩ := forall_mem_cons.1 hfirst
    rw [index_add rfl] at hgap
    rw [Tiling.follow, hfind]
    dsimp only
    rw [length_cons, ih hchain hfirst hgap, Option.map_some, flatMap_cons]

/-- Other chains of first pieces are parts of one that cannot be continued. -/
lemma Chain.length_le_of_first (h' : Chain pieces index chain')
    (hfirst' : ∀ p ∈ chain', First pieces p) (h : Chain pieces index chain)
    (hfirst : ∀ p ∈ chain, First pieces p)
    (hgap : ∀ p ∈ pieces, p.offset ≠ index + (chain.flatMap Piece.data).length) :
    (chain'.flatMap Piece.data).length ≤ (chain.flatMap Piece.data).length := by
  induction chain generalizing index chain' with
  | nil =>
    cases chain' with
    | nil => exact le_rfl
    | cons q chain' => exact absurd h'.2.1 (hgap q h'.1)
  | cons p chain ih =>
    cases chain' with
    | nil => exact Nat.zero_le _
    | cons q chain' =>
      obtain ⟨-, rfl, hchain⟩ := h
      obtain ⟨-, hoff, hchain'⟩ := h'
      obtain ⟨hp, hfirsts⟩ := forall_mem_cons.1 hfirst
      obtain ⟨hq, hfirsts'⟩ := forall_mem_cons.1 hfirst'
      obtain rfl : q = p := by
        rw [First, hoff, hp] at hq
        exact (Option.some.inj hq).symm
      rw [index_add rfl] at hgap
      rw [flatMap_cons, flatMap_cons, length_append, length_append]
      exact Nat.add_le_add_left (ih hchain' hfirsts' hchain hfirsts hgap) _

lemma exists_hidden (h : ¬∀ q ∈ chain, First pieces q) :
    ∃ before p after, chain = before ++ p :: after ∧ (∀ q ∈ before, First pieces q) ∧
      ¬First pieces p := by
  induction chain with
  | nil => exact absurd (forall_mem_nil _) h
  | cons q chain ih =>
    by_cases hq : First pieces q
    · obtain ⟨before, p, after, rfl, hbefore, hp⟩ :=
        ih fun hall => h (forall_mem_cons.2 ⟨hq, hall⟩)
      exact ⟨q :: before, p, after, rfl, forall_mem_cons.2 ⟨hq, hbefore⟩, hp⟩
    · exact ⟨[], q, chain, rfl, forall_mem_nil _, hq⟩

lemma Leading.length_le (h : Leading pieces chain) (h' : Chain pieces 0 chain') :
    (chain'.flatMap Piece.data).length ≤ (chain.flatMap Piece.data).length := by
  by_cases hall : ∀ q ∈ chain', First pieces q
  · exact h'.length_le_of_first hall h.isChain (fun p hp => (h.first p hp).1) h.gap
  · obtain ⟨before, p, after, rfl, hbefore, hp⟩ := exists_hidden hall
    exact h.hidden before p after h' hbefore hp

lemma follow_chain (hne : ∀ p ∈ pieces, p.data ≠ [])
    (hfuel : (pieces.filter fun p => index ≤ p.offset).length < fuel) :
    ∃ chain, follow pieces fuel index = some (chain.flatMap Piece.data) ∧
    Chain pieces index chain ∧
    ∀ p ∈ pieces, p.offset ≠ index + (chain.flatMap Piece.data).length := by
  induction fuel generalizing index with
  | zero => omega
  | succ fuel ih =>
    rw [follow]
    cases hfind : pieces.find? (·.offset = index) with
    | none =>
      refine ⟨[], rfl, trivial, fun p hp hoff => ?_⟩
      have hfalse := find?_eq_none.1 hfind p hp
      exact hfalse (decide_eq_true hoff)
    | some p =>
      have hp : p ∈ pieces := mem_of_find?_eq_some hfind
      have hoff : p.offset = index := by simpa using find?_some hfind
      have hpos : 0 < p.data.length := length_pos_iff.2 (hne p hp)
      -- one piece fewer begins at the next index or after it
      have hfewer : (pieces.filter fun q => p.stop ≤ q.offset).length <
          (pieces.filter fun q => index ≤ q.offset).length := by
        have hsub : (pieces.filter fun q => p.stop ≤ q.offset).Sublist
            (pieces.filter fun q => index ≤ q.offset) := by
          refine monotone_filter_right pieces fun q hq => ?_
          have hstop : p.stop ≤ q.offset := of_decide_eq_true hq
          rw [Piece.stop] at hstop
          exact decide_eq_true (by omega)
        refine lt_of_le_of_ne hsub.length_le fun heq => ?_
        have hmem : p ∈ pieces.filter fun q => index ≤ q.offset :=
          mem_filter.2 ⟨hp, decide_eq_true hoff.ge⟩
        rw [← hsub.eq_of_length heq] at hmem
        have hstop : p.stop ≤ p.offset := of_decide_eq_true (mem_filter.1 hmem).2
        rw [Piece.stop] at hstop
        omega
      have hless : (pieces.filter fun q => p.stop ≤ q.offset).length < fuel := by omega
      obtain ⟨chain, hfollow, hchain, hgap⟩ := ih hless
      refine ⟨p :: chain, ?_, ⟨hp, hoff, hchain⟩, ?_⟩
      · dsimp only
        rw [hfollow, Option.map_some, flatMap_cons]
      · rwa [index_add hoff]

lemma follow_zero_chain (hne : ∀ p ∈ pieces, p.data ≠ []) (hfuel : pieces.length < fuel) :
    ∃ chain, follow pieces fuel 0 = some (chain.flatMap Piece.data) ∧ Chain pieces 0 chain ∧
    (chain.flatMap Piece.data).length ≤ total pieces ∧
    Filled pieces (chain.flatMap Piece.data).length ∧
    ∀ p ∈ pieces, p.offset ≠ (chain.flatMap Piece.data).length := by
  have hfilter : (pieces.filter fun p => 0 ≤ p.offset).length < fuel :=
    (length_filter_le _ _).trans_lt hfuel
  obtain ⟨chain, hfollow, hchain, hgap⟩ := follow_chain hne hfilter
  have hfilled := hchain.filled fun i hi => absurd hi (Nat.not_lt_zero i)
  rw [zero_add] at hgap hfilled
  exact ⟨chain, hfollow, hchain, hchain.length_le_total, hfilled, hgap⟩

/-- An initial part, and the whole if no piece is missing. -/
lemma follow_zero (h : Parts whole pieces) (hfuel : pieces.length < fuel) :
    ∃ n, follow pieces fuel 0 = some (whole.take n) ∧ n ≤ whole.length ∧ n ≤ total pieces ∧
    (IsPartition whole pieces → n = whole.length) := by
  obtain ⟨chain, hfollow, hchain, htotal, hfilled, hgap⟩ := follow_zero_chain h.ne_nil hfuel
  obtain ⟨hdata, hle⟩ := hchain.take_append h.of (Nat.zero_le _)
  rw [take_zero, nil_append, Nat.zero_add] at hdata
  rw [zero_add] at hle
  generalize (chain.flatMap Piece.data).length = n at hdata hle htotal hfilled hgap
  refine ⟨n, hfollow.trans (congrArg some hdata), hle, htotal, fun hpart => ?_⟩
  by_contra hne
  obtain ⟨p, hp, hfrom, hto⟩ := hpart.covered n (lt_of_le_of_ne hle hne)
  have hlt : p.offset < n := lt_of_le_of_ne hfrom (hgap p hp)
  -- the piece overlaps with the one that its first index has been found in
  obtain ⟨q, hq, hqfrom, hqto, hqstop⟩ := hfilled p.offset hlt
  have hpq : p ≠ q := by
    rintro rfl
    omega
  obtain happart | happart := h.apart.forall hp hq hpq
  · omega
  · omega

end Tiling
