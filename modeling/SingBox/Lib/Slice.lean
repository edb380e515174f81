import Mathlib.Data.List.Basic

/-!
# Slices

As in Go: there is no result outside of the bounds. `Returns m P`: a computation stays within them
and its result has `P`.
-/

namespace Slice
open List

/-! ### Slices -/

variable {α β : Type}

def slice (b : List α) (i j : ℕ) : Option (List α) :=
  if i ≤ j ∧ j ≤ b.length then some ((b.take j).drop i) else none

/-- The computation returns, and the result has the property. -/
def Returns (m : Option α) (P : α → Prop) : Prop := ∃ a, m = some a ∧ P a

namespace Returns
variable {m : Option α} {P Q : α → Prop} {a : α}

lemma of_some (h : P a) : Returns (some a) P := ⟨a, rfl, h⟩

lemma bind {k : α → Option β} {R : β → Prop} (h : Returns m P)
    (h' : ∀ a, P a → Returns (k a) R) : Returns (m >>= k) R := by
  obtain ⟨a, rfl, ha⟩ := h
  exact h' a ha

lemma read_iff {k : α → Option β} {R : β → Prop} (hm : m = some a) :
    Returns (m >>= k) R ↔ Returns (k a) R := by
  subst hm
  rfl

lemma self (h : Returns m P) : Returns m fun a => m = some a ∧ P a := by
  obtain ⟨a, ha, hP⟩ := h
  exact ⟨a, ha, ha, hP⟩

lemma imp (h : Returns m P) (hPQ : ∀ a, P a → Q a) : Returns m Q := by
  obtain ⟨a, ha, hP⟩ := h
  exact ⟨a, ha, hPQ a hP⟩

lemma ite {c : Prop} [Decidable c] {m' : Option α} (h : c → Returns m P)
    (h' : ¬c → Returns m' P) : Returns (if c then m else m') P := by
  by_cases hc : c
  · rw [if_pos hc]
    exact h hc
  · rw [if_neg hc]
    exact h' hc

lemma foldlM {f : α → β → Option α} {l : List β} (ha : P a)
    (h : ∀ a, P a → ∀ b ∈ l, Returns (f a b) P) : Returns (l.foldlM f a) P := by
  induction l generalizing a with
  | nil => exact of_some ha
  | cons b l ih =>
    rw [foldlM_cons]
    refine (h a ha b mem_cons_self).bind fun a' ha' => ih ha' ?_
    exact fun a'' ha'' b' hb' => h a'' ha'' b' (mem_cons_of_mem b hb')

lemma mapM {f : α → Option β} {l : List α} (h : ∀ a ∈ l, Returns (f a) fun _ => True) :
    Returns (l.mapM f) fun _ => True := by
  induction l with
  | nil => exact of_some trivial
  | cons a l ih =>
    rw [mapM_cons]
    refine (h a mem_cons_self).bind fun b _ => ?_
    exact (ih fun a' ha' => h a' (mem_cons_of_mem a ha')).bind fun _ _ => of_some trivial

end Returns

variable {b before after : List α} {start : ℕ} {xs : List ℕ}

lemma returns_getElem? {i : ℕ} (h : i < b.length) : Returns b[i]? fun a => b[i]? = some a :=
  ⟨b[i], getElem?_eq_getElem h, getElem?_eq_getElem h⟩

variable {i j : ℕ}

lemma slice_eq (h : i ≤ j) (h' : j ≤ b.length) : slice b i j = some ((b.take j).drop i) :=
  if_pos ⟨h, h'⟩

lemma slice_append (hi : before.length = i) :
    slice (before ++ after) i (before ++ after).length = some after := by
  rw [slice_eq (by rw [length_append]; omega) (Nat.le_refl _), take_length,
    drop_left' hi]

lemma slice_append_middle {middle : List α} (hi : before.length = i)
    (hj : i + middle.length = j) : slice (before ++ (middle ++ after)) i j = some middle := by
  have hle : j ≤ (before ++ (middle ++ after)).length := by
    rw [length_append, length_append]
    omega
  rw [slice_eq (by omega) hle, ← append_assoc,
    take_left' (by rw [length_append]; omega), drop_left' hi]

lemma returns_slice (h : i ≤ j) (h' : j ≤ b.length) :
    Returns (slice b i j) fun s => s.length = j - i := by
  refine ⟨_, slice_eq h h', ?_⟩
  dsimp only
  rw [length_drop, length_take]
  omega

lemma returns_slice_length (h : i ≤ b.length) :
    Returns (slice b i b.length) fun s => s = b.drop i :=
  ⟨_, slice_eq h (Nat.le_refl _), by rw [take_length]⟩

lemma slice_drop {n : ℕ} {s : List α} (hn : n ≤ b.length) (h : slice (b.drop n) i j = some s) :
    slice b (n + i) (n + j) = some s := by
  unfold slice at h
  split_ifs at h with hij
  rw [length_drop] at hij
  rw [slice_eq (by omega) (by omega), ← drop_drop, ← h, take_drop]

/-! ### Computations with errors -/

variable {ε : Type}

/-- The computation returns an error, or a value with the property. -/
def Total (m : ExceptT ε Option α) (P : α → Prop) : Prop :=
  Returns m.run fun r => ∀ a, r = .ok a → P a

namespace Total
variable {m : ExceptT ε Option α} {P Q : α → Prop}

lemma pure {a : α} (h : P a) : Total (Pure.pure a : ExceptT ε Option α) P := by
  refine .of_some fun a' ha' => ?_
  cases ha'
  exact h

lemma throw (e : ε) : Total (MonadExcept.throw e : ExceptT ε Option α) P := by
  refine .of_some fun a ha => ?_
  cases ha

variable {k : α → ExceptT ε Option β} {R : β → Prop}

lemma bind (h : Total m P) (h' : ∀ a, P a → Total (k a) R) : Total (m >>= k) R := by
  obtain ⟨r, hr, hP⟩ := h
  cases r with
  | error e =>
    refine ⟨.error e, ?_, fun b hb => by cases hb⟩
    rw [ExceptT.run_bind, hr]
    rfl
  | ok a =>
    obtain ⟨r, hk, hR⟩ := h' a (hP a rfl)
    refine ⟨r, ?_, hR⟩
    rw [ExceptT.run_bind, hr]
    exact hk

lemma lift {m : Option α} (h : Returns m P) : Total (liftM m : ExceptT ε Option α) P := by
  obtain ⟨a, rfl, ha⟩ := h
  exact .pure ha

lemma of_lift_bind {m : Option α}
    (h : Total (liftM m >>= k) R) : ∃ a, m = some a ∧ Total (k a) R := by
  cases m with
  | none =>
    obtain ⟨r, hr, -⟩ := h
    cases hr
  | some a => exact ⟨a, rfl, h⟩

lemma ite {c : Prop} [Decidable c] {m' : ExceptT ε Option α} (h : c → Total m P)
    (h' : ¬c → Total m' P) : Total (if c then m else m') P := by
  by_cases hc : c
  · rw [if_pos hc]
    exact h hc
  · rw [if_neg hc]
    exact h' hc

lemma check {c : Prop} [Decidable c] {e : ε} {next : Unit → ExceptT ε Option α}
    (h : ¬c → Total (next ()) P) :
    Total (if c then MonadExcept.throw e >>= next else next ()) P := by
  refine .ite (fun _ => .of_some fun a ha => ?_) h
  cases ha

lemma of_check {c : Prop} [Decidable c] {e : ε} {next : Unit → ExceptT ε Option α}
    (h : Total (if c then MonadExcept.throw e >>= next else next ()) P) (hc : ¬c) :
    Total (next ()) P := by
  rwa [if_neg hc] at h

lemma of_read {m : Option α} {a : α} (h : Total (liftM m >>= k) R) (hm : m = some a) :
    Total (k a) R := by
  subst hm
  exact h

lemma of_bind (h : Total (m >>= k) R) : Total m fun a => Total (k a) R := by
  obtain ⟨r, hr, hR⟩ := h
  rw [ExceptT.run_bind] at hr
  cases hm : m.run with
  | none =>
    rw [hm] at hr
    cases hr
  | some r' =>
    refine ⟨r', hm, fun a ha => ?_⟩
    subst ha
    rw [hm] at hr
    exact ⟨r, hr, hR⟩

end Total

lemma Returns.lift_bind {m : Option α} {P : α → Prop} {k : α → ExceptT ε Option β}
    {R : β → Prop} (h : Returns m P) (h' : ∀ a, P a → Total (k a) R) : Total (liftM m >>= k) R :=
  (Total.lift h).bind h'

/-- The computation returns, and its error or value has the property. -/
def Ends (m : ExceptT ε Option α) (R : Except ε α → Prop) : Prop := Returns m.run R

namespace Ends
variable {R : Except ε α → Prop}

lemma pure {a : α} (h : R (.ok a)) : Ends (Pure.pure a : ExceptT ε Option α) R := .of_some h

variable {k : β → ExceptT ε Option α} {P : β → Prop} {m : Option β}

lemma bind {m : ExceptT ε Option β}
    (h : Ends m fun r => ∃ b, r = .ok b ∧ P b) (h' : ∀ b, P b → Ends (k b) R) :
    Ends (m >>= k) R := by
  obtain ⟨_, hr, b, rfl, hP⟩ := h
  obtain ⟨r, hk, hR⟩ := h' b hP
  refine ⟨r, ?_, hR⟩
  rw [ExceptT.run_bind, hr]
  exact hk

lemma lift_bind (h : Returns m P) (h' : ∀ b, P b → Ends (k b) R) : Ends (liftM m >>= k) R := by
  obtain ⟨b, rfl, hP⟩ := h
  exact h' b hP

lemma read {b : β} (h : m = some b) (h' : Ends (k b) R) : Ends (liftM m >>= k) R := by
  subst h
  exact h'

lemma mapM_lift {f : α → Option β} {l : List α} (h : ∀ a ∈ l, Returns (f a) fun _ => True) :
    Ends (l.mapM fun a => (liftM (f a) : ExceptT ε Option β)) fun r =>
    ∃ bs, r = .ok bs ∧ True := by
  induction l with
  | nil => exact .pure ⟨[], rfl, trivial⟩
  | cons a l ih =>
    rw [mapM_cons]
    refine .lift_bind (h a mem_cons_self) fun b _ => ?_
    refine .bind (ih fun a' ha' => h a' (mem_cons_of_mem a ha')) fun bs _ => ?_
    exact .pure ⟨b :: bs, rfl, trivial⟩

variable {c : Prop} [Decidable c] {e : ε} {next : Unit → ExceptT ε Option α}

lemma check (hc : ¬c) (h : Ends (next ()) R) :
    Ends (if c then MonadExcept.throw e >>= next else next ()) R := by
  rwa [if_neg hc]

lemma check_error (hc : c) (h : R (.error e)) :
    Ends (if c then MonadExcept.throw e >>= next else next ()) R := by
  rw [if_pos hc]
  exact .of_some h

end Ends

/-! ### Slices of a buffer -/

structure View (α : Type) where
  memory : List α
  low : ℕ
  high : ℕ
  low_le : low ≤ high
  high_le : high ≤ memory.length
  deriving DecidableEq

namespace View

def ofList (l : List α) : View α := ⟨l, 0, l.length, Nat.zero_le _, Nat.le_refl _⟩

def length (v : View α) : ℕ := v.high - v.low

def toList (v : View α) : List α := (v.memory.take v.high).drop v.low

def slice (v : View α) (i j : ℕ) : Option (View α) :=
  if h : i ≤ j ∧ v.low + j ≤ v.memory.length then
    some ⟨v.memory, v.low + i, v.low + j, Nat.add_le_add_left h.1 _, h.2⟩
  else none

def append (v : View α) (l : List α) : View α :=
  if h : v.high + l.length ≤ v.memory.length then
    ⟨v.memory.take v.high ++ l ++ v.memory.drop (v.high + l.length), v.low, v.high + l.length,
      Nat.le_trans v.low_le (Nat.le_add_right _ _), by
        rw [length_append, length_append, length_take, length_drop]
        omega⟩
  else ofList (v.toList ++ l)

/-- The slice lies in the other one, not only in its capacity. -/
def Inside (v w : View α) : Prop := v.memory = w.memory ∧ w.low ≤ v.low ∧ v.high ≤ w.high

lemma length_toList (v : View α) : v.toList.length = v.length := by
  have hhigh := v.high_le
  rw [toList, length, length_drop, length_take]
  omega

variable {v w : View α}

lemma slice_eq_some (h : v.slice i j = some w) :
    w.memory = v.memory ∧ w.low = v.low + i ∧ w.high = v.low + j := by
  unfold slice at h
  split_ifs at h
  cases h
  exact ⟨rfl, rfl, rfl⟩

lemma toList_append (l : List α) : (v.append l).toList = v.toList ++ l := by
  have hlow := v.low_le
  have hhigh := v.high_le
  unfold append
  split_ifs with hroom
  · have hlen : (v.memory.take v.high ++ l).length = v.high + l.length := by
      rw [length_append, length_take, Nat.min_eq_left hhigh]
    have hle : v.low ≤ (v.memory.take v.high).length := by
      rw [length_take, Nat.min_eq_left hhigh]
      exact hlow
    rw [toList, toList, take_left' hlen, drop_append_of_le_length hle]
  · rw [ofList, toList]
    rw [take_length, drop_zero]

lemma inside_slice_iff (h : v.slice i j = some w) : w.Inside v ↔ j ≤ v.length := by
  obtain ⟨hmemory, hlow, hhigh⟩ := slice_eq_some h
  have hle := v.low_le
  constructor
  · rintro ⟨-, -, hinside⟩
    rw [length]
    omega
  · intro hj
    rw [length] at hj
    exact ⟨hmemory, by omega, by omega⟩

lemma toList_slice (h : v.slice i j = some w) (hj : j ≤ v.length) :
    w.toList = (v.toList.take j).drop i := by
  obtain ⟨hmemory, hlow, hhigh⟩ := slice_eq_some h
  have hle := v.low_le
  rw [length] at hj
  rw [toList, toList, hmemory, hlow, hhigh, take_drop, take_take, drop_drop,
    Nat.min_eq_left (by omega)]

lemma returns_slice (h : i ≤ j) (h' : j ≤ v.length) :
    Returns (v.slice i j) fun w => w.Inside v := by
  have hle := v.low_le
  have hhigh := v.high_le
  rw [length] at h'
  have hbds : i ≤ j ∧ v.low + j ≤ v.memory.length := ⟨h, by omega⟩
  refine ⟨_, dif_pos hbds, rfl, Nat.le_add_right _ _, ?_⟩
  dsimp only
  omega

end View

/-! ### Cutting -/

/-- The parts from `start` on when a list is cut at the indexes. -/
def cuts (b : List α) : ℕ → List ℕ → List (List α)
  | start, [] => [b.drop start]
  | start, x :: xs => (b.take x).drop start :: cuts b x xs

lemma length_cuts (b : List α) (start : ℕ) (xs : List ℕ) :
    (cuts b start xs).length = xs.length + 1 := by
  induction xs generalizing start with
  | nil => rfl
  | cons x xs ih => rw [cuts, length_cons, ih, length_cons]

lemma flatten_cuts (b : List α)
    (h : (start :: xs).Pairwise (· < ·)) : (cuts b start xs).flatten = b.drop start := by
  induction xs generalizing start with
  | nil => simp [cuts]
  | cons x xs ih =>
    obtain ⟨hst, hxs⟩ := pairwise_cons.1 h
    have hlt : start < x := hst x mem_cons_self
    have hjoin : (b.take x).drop start ++ b.drop x = b.drop start := by
      conv_rhs => rw [← take_append_drop x b]
      rw [drop_append]
      by_cases hx : x ≤ b.length
      · rw [length_take, Nat.min_eq_left hx, Nat.sub_eq_zero_of_le (Nat.le_of_lt hlt),
          drop_zero]
      · rw [drop_eq_nil_of_le (Nat.le_of_not_le hx), drop_nil]
    rw [cuts, flatten_cons, ih hxs, hjoin]

lemma ne_nil_of_mem_cuts
    (h : (start :: xs).Pairwise (· < ·)) (hlt : ∀ x ∈ start :: xs, x < b.length) {part : List α}
    (hpart : part ∈ cuts b start xs) : part ≠ [] := by
  induction xs generalizing start with
  | nil =>
    obtain rfl := mem_singleton.1 hpart
    have hst := hlt start mem_cons_self
    exact ne_nil_of_length_pos (by rw [length_drop]; omega)
  | cons x xs ih =>
    obtain ⟨hst, hxs⟩ := pairwise_cons.1 h
    obtain rfl | hpart := mem_cons.1 hpart
    · have hx := hlt x (by simp)
      have hsx := hst x mem_cons_self
      exact ne_nil_of_length_pos (by rw [length_drop, length_take]; omega)
    · exact ih hxs (fun y hy => hlt y (mem_cons_of_mem _ hy)) hpart

lemma getElem?_cuts_succ :
    (cuts b start xs)[i + 1]? = xs[i]?.map fun x =>
      match xs[i + 1]? with
      | some y => (b.take y).drop x
      | none => b.drop x := by
  induction xs generalizing start i with
  | nil => simp [cuts]
  | cons x xs ih =>
    rw [cuts, getElem?_cons_succ]
    cases i with
    | zero => cases xs <;> simp [cuts]
    | succ i => rw [ih]; simp

lemma foldlM_range {σ : Type} {f : σ → ℕ → Option σ} {g : σ → α → Option σ} {l : List α}
    (h : ∀ s i a, l[i]? = some a → f s i = g s a) (init : σ) :
    (range l.length).foldlM f init = l.foldlM g init := by
  induction l generalizing f init with
  | nil => rfl
  | cons a l ih =>
    rw [length_cons, range_succ_eq_map, foldlM_cons, foldlM_cons,
      h init 0 a rfl]
    refine congrArg (g init a >>= ·) (funext fun s => ?_)
    rw [foldlM_map]
    exact ih (fun s i a' ha' => h s (i + 1) a' ha') s

end Slice
