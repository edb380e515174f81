import Mathlib.Data.List.Count
import SingBox.Lib.Run

/-!
# Processes over shared memory

Any number of processes work on one memory, each with one atomic step at a time.
-/

structure Protocol (σ π κ γ : Type*) where
  start : κ → π
  next : ℕ → γ → σ → π → σ × π

structure Processes (σ π : Type*) where
  shared : σ
  procs : List π

namespace Processes
open List
variable {σ π κ γ : Type*}

inductive Action (κ γ : Type*) where
  | call (kind : κ)
  | move (i : ℕ) (choice : γ)

def set (s : Processes σ π) (i : ℕ) (next : σ × π) : Processes σ π :=
  ⟨next.1, s.procs.set i next.2⟩

def step (protocol : Protocol σ π κ γ) (s : Processes σ π) : Action κ γ → Processes σ π
  | .call kind => ⟨s.shared, s.procs ++ [protocol.start kind]⟩
  | .move i choice =>
    match s.procs[i]? with
    | none => s
    | some proc => s.set i (protocol.next i choice s.shared proc)

variable {protocol : Protocol σ π κ γ} {s : Processes σ π} {i : ℕ} {old : π} {next : σ × π}
  {choice : γ} {proc : π} {procs : List π}

lemma step_move_none (hi : s.procs[i]? = none) : s.step protocol (.move i choice) = s := by
  simp [step, hi]

lemma step_move (hi : s.procs[i]? = some old) :
    s.step protocol (.move i choice) = s.set i (protocol.next i choice s.shared old) := by
  simp [step, hi]

lemma mem_of_set (h : proc ∈ (s.set i next).procs) : proc ∈ s.procs ∨ proc = next.2 :=
  mem_or_eq_of_mem_set h

lemma mem_set_self (hi : s.procs[i]? = some old) : next.2 ∈ (s.set i next).procs :=
  mem_set (List.getElem?_eq_some_iff.1 hi).1 _

lemma mem_set_of_mem (hi : s.procs[i]? = some old) (hproc : proc ∈ s.procs) :
    proc = old ∨ proc ∈ (s.set i next).procs := by
  obtain ⟨j, hj⟩ := mem_iff_getElem?.1 hproc
  by_cases hij : i = j
  · subst hij
    exact .inl (Option.some.inj (hj.symm.trans hi))
  · exact .inr (mem_iff_getElem?.2 ⟨j, (getElem?_set_ne hij).trans hj⟩)

/-- A property is kept if the process that moves has it afterwards and the others keep it. -/
lemma forall_set {P : σ → ℕ → π → Prop}
    (h : ∀ j proc, s.procs[j]? = some proc → P s.shared j proc) (hself : P next.1 i next.2)
    (hothers : ∀ j proc, j ≠ i → P s.shared j proc → P next.1 j proc) :
    ∀ j proc, (s.set i next).procs[j]? = some proc → P (s.set i next).shared j proc := by
  intro j proc hj
  by_cases hij : i = j
  · subst hij
    obtain ⟨hlt, hproc⟩ := List.getElem?_eq_some_iff.1 hj
    obtain rfl : next.2 = proc := by simpa [set] using hproc
    exact hself
  · exact hothers j proc (Ne.symm hij) (h j proc ((getElem?_set_ne hij).symm.trans hj))

lemma forall_append {P : ℕ → π → Prop}
    (h : ∀ j proc, procs[j]? = some proc → P j proc) (hnew : ∀ j, P j proc) :
    ∀ j proc', (procs ++ [proc])[j]? = some proc' → P j proc' := by
  intro j proc' hj
  rcases Nat.lt_or_ge j procs.length with hlt | hge
  · exact h j proc' ((getElem?_append_left hlt).symm.trans hj)
  · rw [getElem?_append_right hge] at hj
    obtain rfl : proc' = proc := mem_singleton.1 (mem_of_getElem? hj)
    exact hnew j

lemma countP_list_set {α : Type*} {l : List α} {old : α} (p : α → Bool) (new : α)
    (hi : l[i]? = some old) :
    (l.set i new).countP p + (p old).toNat = l.countP p + (p new).toNat := by
  obtain ⟨hlt, rfl⟩ := List.getElem?_eq_some_iff.1 hi
  have hpos : (p l[i]).toNat ≤ l.countP p := by
    cases hp : p l[i] with
    | false => exact Nat.zero_le _
    | true => exact countP_pos_iff.2 ⟨_, getElem_mem hlt, hp⟩
  have hset : (l.set i new).countP p = l.countP p - (p l[i]).toNat + (p new).toNat := by
    refine (List.countP_set hlt).trans ?_
    cases p l[i] <;> cases p new <;> rfl
  omega

lemma countP_set (p : π → Bool) (hi : s.procs[i]? = some old) :
    (s.set i next).procs.countP p + (p old).toNat = s.procs.countP p + (p next.2).toNat :=
  countP_list_set p next.2 hi

lemma countP_call (p : π → Bool) {kind : κ} (hst : p (protocol.start kind) = false) :
    (s.step protocol (.call kind)).procs.countP p = s.procs.countP p := by
  simp [step, hst]

lemma false_of_countP_le_one {p : π → Bool} {j : ℕ} {other : π}
    (h : procs.countP p ≤ 1) (hi : procs[i]? = some proc) (hproc : p proc)
    (hj : procs[j]? = some other) (hij : j ≠ i) : p other = false := by
  refine Bool.of_not_eq_true fun hoth => ?_
  induction procs generalizing i j with
  | nil => cases hi
  | cons x procs ih =>
    rw [countP_cons] at h
    cases i with
    | zero =>
      cases j with
      | zero => exact hij rfl
      | succ j =>
        obtain rfl : x = proc := Option.some.inj hi
        have hpos : 0 < procs.countP p :=
          countP_pos_iff.2 ⟨other, mem_of_getElem? hj, hoth⟩
        rw [if_pos hproc] at h
        omega
    | succ i =>
      cases j with
      | zero =>
        obtain rfl : x = other := Option.some.inj hj
        have hpos : 0 < procs.countP p :=
          countP_pos_iff.2 ⟨proc, mem_of_getElem? hi, hproc⟩
        rw [if_pos hoth] at h
        omega
      | succ j =>
        exact ih (Nat.le_of_add_right_le h) hi hj fun heq => hij (congrArg Nat.succ heq)

/-- What new calls and steps keep holds in every state. -/
lemma invariant_of_run {I : Processes σ π → Prop}
    {ok : Processes σ π → Action κ γ → Prop} {start : Processes σ π}
    (h : Run (step protocol) ok start s) (hst : I start)
    (hcall : ∀ s kind, I s → I ⟨s.shared, s.procs ++ [protocol.start kind]⟩)
    (hmove : ∀ s i choice proc, I s → s.procs[i]? = some proc → ok s (.move i choice) →
      I (s.set i (protocol.next i choice s.shared proc))) : I s := by
  refine h.invariant hst fun s a hI hok => ?_
  cases a with
  | call kind => exact hcall s kind hI
  | move i choice =>
    cases hi : s.procs[i]? with
    | none => exact (step_move_none hi).symm ▸ hI
    | some proc => exact (step_move hi).symm ▸ hmove s i choice proc hI hi hok

end Processes
