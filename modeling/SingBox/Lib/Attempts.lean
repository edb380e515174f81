import Mathlib.Data.Fintype.Card

/-!
# Trying several candidates

Candidates are asked in turn until one answers, or at once and the first answer counts. One may
break the search off.
-/

namespace Attempts
open List
variable {ι π ε ρ : Type*}

def Sound (P : ρ → Prop) (outcome : Except π (Except ε ρ)) : Prop :=
  ∃ result, outcome = .ok result ∧ ∀ answer, result = .ok answer → P answer

def tryEach (ask : ι → Except π (Except ε ρ)) : List ι → Option ε → Except π (Except (Option ε) ρ)
  | [], lastErr => .ok (.error lastErr)
  | x :: xs, _ =>
    match ask x with
    | .error stop => .error stop
    | .ok (.ok answer) => .ok (.ok answer)
    | .ok (.error err) => tryEach ask xs (some err)

/-- It ends with an answer of the right kind, or with an error. -/
def Settled (P : ρ → Prop) : Except π (Except (Option ε) ρ) → Prop
  | .error _ => False
  | .ok (.ok answer) => P answer
  | .ok (.error lastErr) => lastErr.isSome

variable {P : ρ → Prop} {ask : ι → Except π (Except ε ρ)} {lastErr : Option ε}
  {xs : List ι} {answer : ρ}

lemma settled_tryEach (hask : ∀ x ∈ xs, Sound P (ask x))
    (hst : xs ≠ [] ∨ lastErr.isSome) : Settled P (tryEach ask xs lastErr) := by
  induction xs generalizing lastErr with
  | nil => exact hst.resolve_left fun h => h rfl
  | cons x xs ih =>
    obtain ⟨result, hres, hans⟩ := hask x mem_cons_self
    rw [tryEach, hres]
    cases result with
    | ok answer => exact hans answer rfl
    | error err => exact ih (fun y hy => hask y (mem_cons_of_mem _ hy)) (.inr rfl)

/-- Where no answer is right, every candidate has to fail with an error. -/
lemma forall_failed_of_settled (hask : ∀ x ∈ xs, ∀ answer, ask x = .ok (.ok answer) → ¬P answer)
    (hset : Settled P (tryEach ask xs lastErr)) :
    (∀ x ∈ xs, ∃ err, ask x = .ok (.error err)) ∧ (xs ≠ [] ∨ lastErr.isSome) := by
  induction xs generalizing lastErr with
  | nil => exact ⟨fun x hx => absurd hx not_mem_nil, .inr hset⟩
  | cons x xs ih =>
    rw [tryEach] at hset
    have hfst := hask x mem_cons_self
    cases hx : ask x with
    | error stop =>
      rw [hx] at hset
      exact hset.elim
    | ok result =>
      rw [hx] at hset hfst
      cases result with
      | ok answer => exact absurd hset (hfst answer rfl)
      | error err =>
        have hrest := (ih (fun y hy => hask y (mem_cons_of_mem _ hy)) hset).1
        refine ⟨fun y hy => ?_, .inl (cons_ne_nil x xs)⟩
        rcases mem_cons.1 hy with rfl | hy
        · exact ⟨err, hx⟩
        · exact hrest y hy

/-- The order of the results, in which the search may be cancelled. -/
structure Schedule (n : ℕ) (ε : Type*) where
  order : List (Fin n)
  nodup : order.Nodup
  cancelled : Option ε
  complete : cancelled = none → 0 < n ∧ ∀ i, i ∈ order

inductive Finish (ε ρ : Type*) where
  | answered (answer : ρ)
  | failed (errs : List ε) (nonempty : errs ≠ [])
  | cancelled (err : ε)
  | waiting

def Finish.map {ρ' : Type*} (f : ρ → ρ') : Finish ε ρ → Finish ε ρ'
  | .answered answer => .answered (f answer)
  | .failed errs nonempty => .failed errs nonempty
  | .cancelled err => .cancelled err
  | .waiting => .waiting

def collect {n : ℕ} (ask : Fin n → Except π (Except ε ρ)) (cancelled : Option ε) :
    List (Fin n) → List ε → Except π (Finish ε ρ)
  | [], _ =>
    match cancelled with
    | some err => .ok (.cancelled err)
    | none => .ok .waiting
  | i :: order, errs =>
    match ask i with
    | .error stop => .error stop
    | .ok (.ok answer) => .ok (.answered answer)
    | .ok (.error err) =>
      if (errs ++ [err]).length = n then .ok (.failed (errs ++ [err]) (concat_ne_nil err errs))
      else collect ask cancelled order (errs ++ [err])

def race {n : ℕ} (ask : Fin n → Except π (Except ε ρ)) (schedule : Schedule n ε) :
    Except π (Finish ε ρ) :=
  collect ask schedule.cancelled schedule.order []

def Finished (P : ρ → Prop) : Except π (Finish ε ρ) → Prop
  | .error _ => False
  | .ok (.answered answer) => P answer
  | .ok (.failed ..) => True
  | .ok (.cancelled _) => True
  | .ok .waiting => False

section Race
variable {n : ℕ} {ask : Fin n → Except π (Except ε ρ)}
  {cancelled : Option ε} {order : List (Fin n)} {errs : List ε} {answer : ρ} {i : Fin n}
  {err : ε}

/-- Without a cancellation there are enough results to come. -/
lemma finished_collect (hask : ∀ i ∈ order, Sound P (ask i))
    (hleft : cancelled = none → errs.length < n ∧ n ≤ errs.length + order.length) :
    Finished P (collect ask cancelled order errs) := by
  induction order generalizing errs with
  | nil =>
    cases cancelled with
    | some err => trivial
    | none =>
      have hlt := hleft rfl
      rw [length_nil] at hlt
      omega
  | cons i order ih =>
    obtain ⟨result, hres, hans⟩ := hask i mem_cons_self
    rw [collect, hres]
    cases result with
    | ok answer => exact hans answer rfl
    | error err =>
      dsimp only
      split_ifs with hall
      · trivial
      · refine ih (fun j hj => hask j (mem_cons_of_mem _ hj)) fun hnone => ?_
        have hlt := hleft hnone
        rw [length_append, length_singleton] at hall ⊢
        rw [length_cons] at hlt
        omega

lemma Schedule.le_length (schedule : Schedule n ε) (h : schedule.cancelled = none) :
    n ≤ schedule.order.length := by
  have hall : schedule.order.toFinset = Finset.univ :=
    Finset.eq_univ_of_forall fun i => mem_toFinset.2 ((schedule.complete h).2 i)
  calc n = schedule.order.toFinset.card := by rw [hall, Finset.card_univ, Fintype.card_fin]
    _ ≤ schedule.order.length := toFinset_card_le _

lemma finished_race (hask : ∀ i, Sound P (ask i)) (schedule : Schedule n ε) :
    Finished P (race ask schedule) := by
  refine finished_collect (fun i _ => hask i) fun h => ⟨(schedule.complete h).1, ?_⟩
  rw [length_nil, Nat.zero_add]
  exact schedule.le_length h

def Schedule.cancel (err : ε) : Schedule n ε where
  order := []
  nodup := nodup_nil
  cancelled := some err
  complete := fun h => absurd h (Option.some_ne_none err)

def Schedule.first (i : Fin n) (err : ε) : Schedule n ε where
  order := [i]
  nodup := nodup_singleton i
  cancelled := some err
  complete := fun h => absurd h (Option.some_ne_none err)

/-- A property of one schedule, where those for all numbers are given. -/
lemma forall_schedules_iff {p : Schedule n ε → Prop} (err : ε) :
    (∀ schedules : ∀ m, Schedule m ε, p (schedules n)) ↔ ∀ schedule, p schedule := by
  constructor
  · intro h schedule
    have hupdate := h (Function.update (fun _ => .cancel err) n schedule)
    rwa [Function.update_self] at hupdate
  · exact fun h schedules => h (schedules n)

lemma sound_of_finished_race (h : Finished P (race ask (.first i err))) : Sound P (ask i) := by
  change Finished P (collect ask (some err) [i] []) at h
  rw [collect] at h
  cases hi : ask i with
  | error stop =>
    rw [hi] at h
    exact h.elim
  | ok result =>
    rw [hi] at h
    refine ⟨result, rfl, fun answer hans => ?_⟩
    subst hans
    exact h

end Race

end Attempts
