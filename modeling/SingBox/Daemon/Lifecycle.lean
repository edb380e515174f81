import Mathlib.Order.Nat
import SingBox.Lib.Processes

/-!
# The lifecycle of the service in the daemon

What a call does while it holds the lock is one step; instances are closed and started without it.
-/

namespace SingBox.Daemon
open Function Processes

/-! ### The calls -/

inductive Status where
  | idle
  | starting
  | started
  | stopping
  | fatal
deriving DecidableEq

structure Shared where
  status : Status := .idle
  current : Option ℕ := none
  made : ℕ := 0
  startedOk : ℕ → Bool := fun _ => false
  closes : ℕ → ℕ := fun _ => 0

inductive Result where
  | ok
  | invalid
  | failed

inductive Call where
  | startOrReload
  | closeOld (old : ℕ)
  | reload
  | start (i : ℕ)
  | finish (i : ℕ) (ok : Bool)
  | closeService
  | returned (result : Result)

namespace Shared

def close (t : Shared) (i : ℕ) : Shared := { t with closes := update t.closes i (t.closes i + 1) }

def replace (t : Shared) : Shared :=
  { t with status := .starting, current := some t.made, made := t.made + 1 }

def newInstance (t : Shared) (ok : Bool) : Shared × Call :=
  if ok then (t.replace, .start t.made) else ({ t with status := .fatal }, .returned .failed)

end Shared

def next (ok : Bool) (t : Shared) : Call → Shared × Call
  | .startOrReload =>
    if t.status = .stopping then (t, .returned .invalid)
    else
      match t.current with
      | some old => ({ t with status := .stopping }, .closeOld old)
      | none => t.newInstance ok
  | .closeOld old => (t.close old, .reload)
  | .reload => t.newInstance ok
  | .start i =>
    ({ t with startedOk := update t.startedOk i (t.startedOk i || ok) }, .finish i ok)
  | .finish _ started =>
    if t.status ≠ .starting then (t, .returned .ok)
    else if started then ({ t with status := .started }, .returned .ok)
    else ({ t with status := .fatal }, .returned .failed)
  | .closeService =>
    if t.status = .starting ∨ t.status = .started then
      match t.current with
      | none => ({ t with status := .idle }, .returned .ok)
      | some i =>
        let t := { t.close i with current := none }
        if ok then ({ t with status := .idle }, .returned .ok)
        else ({ t with status := .fatal }, .returned .failed)
    else (t, .returned .invalid)
  | .returned result => (t, .returned result)

inductive Kind where
  | startOrReloadService
  | closeService

def Kind.start : Kind → Call
  | .startOrReloadService => .startOrReload
  | .closeService => .closeService

/-- Whether making, starting or closing an instance succeeds. -/
def protocol : Protocol Shared Call Kind Bool := ⟨Kind.start, fun _ => next⟩

abbrev State := Processes Shared Call

abbrev Action := Processes.Action Kind Bool

def State.start : State := ⟨{}, []⟩

/-! ### What is to hold -/

structure Safe (t : Shared) : Prop where
  started : t.status = .started → ∃ i, t.current = some i ∧ t.startedOk i ∧ t.closes i = 0
  idle : t.status = .idle → ∀ i < t.made, 0 < t.closes i
  once : ∀ i, t.closes i ≤ 1
  /-- An instance after which another one was made is closed. -/
  replaced : ∀ i, i + 1 < t.made → 0 < t.closes i

/-- A start finds no closed instance, and each call takes its own start. -/
def careful (s : State) : Action → Bool
  | .call _ => true
  | .move i _ =>
    match s.procs[i]? with
    | some .startOrReload =>
      s.shared.status = .stopping || s.shared.current.all fun old => s.shared.closes old = 0
    | some (.finish j _) => s.shared.status ≠ .starting || s.shared.current = some j
    | _ => true

def Call.reloads : Call → Bool
  | .closeOld _ | .reload => true
  | _ => false

/-! ### One step -/

inductive Next (t : Shared) : Call → Shared → Call → Prop where
  | refuse {call result} : Next t call t (.returned result)
  | stop {old} : t.status ≠ .stopping → t.current = some old →
      Next t .startOrReload { t with status := .stopping } (.closeOld old)
  | create : t.status ≠ .stopping → t.current = none →
      Next t .startOrReload t.replace (.start t.made)
  | closeOld {old} : Next t (.closeOld old) (t.close old) .reload
  | reload : Next t .reload t.replace (.start t.made)
  | start {i ok} : Next t (.start i)
      { t with startedOk := update t.startedOk i (t.startedOk i || ok) } (.finish i ok)
  | finish {i} : t.status = .starting →
      Next t (.finish i true) { t with status := .started } (.returned .ok)
  | fail {call result} : call.reloads ∨ t.status ≠ .stopping →
      Next t call { t with status := .fatal } (.returned result)
  | closeNothing : t.status = .starting ∨ t.status = .started → t.current = none →
      Next t .closeService { t with status := .idle } (.returned .ok)
  | closeService {i status result} : t.status = .starting ∨ t.status = .started →
      t.current = some i → status = .idle ∨ status = .fatal →
      Next t .closeService { t.close i with current := none, status } (.returned result)

lemma next_spec (ok : Bool) (t : Shared) (call : Call) :
    Next t call (next ok t call).1 (next ok t call).2 := by
  cases call with
  | startOrReload =>
    by_cases hstat : t.status = .stopping
    · rw [next, if_pos hstat]
      exact .refuse
    · rw [next, if_neg hstat]
      split
      · next old hcur => exact .stop hstat hcur
      · next hcur =>
        cases ok with
        | true => exact .create hstat hcur
        | false => exact .fail (.inr hstat)
  | closeOld old => exact .closeOld
  | reload =>
    cases ok with
    | true => exact .reload
    | false => exact .fail (.inl rfl)
  | start i => exact .start
  | finish i started =>
    by_cases hstat : t.status = .starting
    · rw [next, if_neg (not_not.2 hstat)]
      cases started with
      | true => exact .finish hstat
      | false => exact .fail (.inr (hstat ▸ by decide))
    · rw [next, if_pos hstat]
      exact .refuse
  | closeService =>
    by_cases hstat : t.status = .starting ∨ t.status = .started
    · rw [next, if_pos hstat]
      split
      · next hcur => exact .closeNothing hstat hcur
      · next i hcur =>
        cases ok with
        | true => exact .closeService hstat hcur (.inl rfl)
        | false => exact .closeService hstat hcur (.inr rfl)
    · rw [next, if_neg hstat]
      exact .refuse
  | returned result => exact .refuse

/-! ### The invariant -/

structure Sound (t : Shared) : Prop where
  unmade : ∀ i, t.made ≤ i → t.closes i = 0
  gone : ∀ i < t.made, t.current ≠ some i → t.closes i = 1
  last : ∀ i, t.current = some i → i + 1 = t.made
  once : ∀ i, t.current = some i → t.closes i ≤ 1
  idle : t.status = .idle → t.current = none
  live : t.status = .starting ∨ t.status = .started → ∃ i, t.current = some i ∧ t.closes i = 0
  started : t.status = .started → ∀ i, t.current = some i → t.startedOk i

def Call.Fits (t : Shared) : Call → Prop
  | .closeOld old => t.status = .stopping ∧ t.current = some old ∧ t.closes old = 0
  | .reload => t.status = .stopping ∧ ∃ old, t.current = some old ∧ t.closes old = 1
  | .finish i true => t.startedOk i
  | _ => True

structure Inv (s : State) : Prop where
  sound : Sound s.shared
  calls : ∀ (j : ℕ) (call : Call), s.procs[j]? = some call → call.Fits s.shared
  single : s.procs.countP Call.reloads ≤ 1

variable {t t' : Shared} {call call' other : Call} {s : State} {i : ℕ}

lemma Call.Fits.stopping (h : call.Fits t) (hreloads : call.reloads) : t.status = .stopping := by
  cases call with
  | closeOld old | reload => exact h.1
  | _ => exact absurd hreloads Bool.false_ne_true

lemma closes_close_of_ne {j : ℕ} (h : j ≠ i) : (t.close i).closes j = t.closes j :=
  update_of_ne h _ _

lemma closes_close_self (h : t.closes i = 0) : (t.close i).closes i = 1 := by
  show update t.closes i (t.closes i + 1) i = 1
  rw [update_self, h]

namespace Sound

lemma lt_made (h : Sound t) (hcur : t.current = some i) : i < t.made := (h.last i hcur).le

lemma replace (h : Sound t) (hcl : ∀ i, t.current = some i → t.closes i = 1) : Sound t.replace where
  unmade i hi := h.unmade i (Nat.le_of_succ_le hi)
  gone i hi hcur := by
    by_cases hold : t.current = some i
    · exact hcl i hold
    · have hne : i ≠ t.made := fun heq => hcur (congrArg some heq.symm)
      exact h.gone i (Nat.lt_of_le_of_ne (Nat.le_of_lt_succ hi) hne) hold
  last i hi := congrArg (· + 1) (Option.some.inj hi).symm
  once i hi := by
    obtain rfl : t.made = i := Option.some.inj hi
    exact (h.unmade t.made le_rfl).trans_le (Nat.zero_le 1)
  idle hidle := by cases hidle
  live _ := ⟨t.made, rfl, h.unmade t.made le_rfl⟩
  started hst := by cases hst

lemma setStatus (h : Sound t) {status : Status} (hstat : status = .stopping ∨ status = .fatal) :
    Sound { t with status } where
  unmade := h.unmade
  gone := h.gone
  last := h.last
  once := h.once
  idle hidle := by rcases hstat with rfl | rfl <;> cases hidle
  live hlive := by rcases hstat with rfl | rfl <;> rcases hlive with hlive | hlive <;> cases hlive
  started hst := by rcases hstat with rfl | rfl <;> cases hst

lemma closeOld (h : Sound t) (hstat : t.status = .stopping) (hcur : t.current = some i)
    (hopen : t.closes i = 0) : Sound (t.close i) where
  unmade j hj := by
    have hlt : i < j := lt_of_lt_of_le (h.lt_made hcur) hj
    exact (closes_close_of_ne hlt.ne').trans (h.unmade j hj)
  gone j hj hne := by
    have hne' : j ≠ i := fun heq => hne (heq ▸ hcur)
    exact (closes_close_of_ne hne').trans (h.gone j hj hne)
  last := h.last
  once j hj := by
    cases hcur.symm.trans hj
    exact (closes_close_self hopen).le
  idle hidle := by cases hstat.symm.trans hidle
  live hlive := by rcases hlive with hlive | hlive <;> cases hstat.symm.trans hlive
  started hst := by cases hstat.symm.trans hst

lemma closeService (h : Sound t) (hcur : t.current = some i) (hopen : t.closes i = 0)
    {status : Status} (hstat : status = .idle ∨ status = .fatal) :
    Sound { t.close i with current := none, status } where
  unmade j hj := by
    have hlt : i < j := lt_of_lt_of_le (h.lt_made hcur) hj
    exact (closes_close_of_ne hlt.ne').trans (h.unmade j hj)
  gone j hj _ := by
    by_cases hj' : j = i
    · subst hj'
      exact closes_close_self hopen
    · refine (closes_close_of_ne hj').trans (h.gone j hj fun hj'' => hj' ?_)
      exact Option.some.inj (hj''.symm.trans hcur)
  last j hj := by cases hj
  once j hj := by cases hj
  idle _ := rfl
  live hlive := by rcases hstat with rfl | rfl <;> rcases hlive with hlive | hlive <;> cases hlive
  started hst := by rcases hstat with rfl | rfl <;> cases hst

lemma safe (h : Sound t) : Safe t where
  started hst := by
    obtain ⟨i, hcur, hopen⟩ := h.live (.inr hst)
    exact ⟨i, hcur, h.started hst i hcur, hopen⟩
  idle hidle i hi := by
    rw [h.gone i hi (by rw [h.idle hidle]; exact (Option.some_ne_none i).symm)]
    exact Nat.one_pos
  once i := by
    by_cases hcur : t.current = some i
    · exact h.once i hcur
    · rcases lt_or_ge i t.made with hi | hi
      · exact (h.gone i hi hcur).le
      · exact (h.unmade i hi).trans_le (Nat.zero_le 1)
  replaced i hi := by
    rw [h.gone i (Nat.lt_of_succ_lt hi) fun hcur => by have := h.last i hcur; omega]
    exact Nat.one_pos

end Sound

namespace Next
section
variable (hnext : Next t call t' call')
include hnext

lemma sound (h : Sound t) (hfits : call.Fits t)
    (hold : call = .startOrReload → t.status ≠ .stopping → ∀ i, t.current = some i → t.closes i = 0)
    (hown : ∀ i ok, call = .finish i ok → t.status = .starting → t.current = some i) :
    Sound t' := by
  cases hnext with
  | refuse => exact h
  | stop => exact h.setStatus (.inl rfl)
  | create _ hcur =>
    refine h.replace fun i hi => ?_
    cases hcur.symm.trans hi
  | closeOld => exact h.closeOld hfits.1 hfits.2.1 hfits.2.2
  | reload =>
    obtain ⟨-, old, hcur, hcl⟩ := hfits
    refine h.replace fun i hi => ?_
    cases hcur.symm.trans hi
    exact hcl
  | @start i ok =>
    refine ⟨h.unmade, h.gone, h.last, h.once, h.idle, h.live, fun hst j hj => ?_⟩
    have hok := h.started hst j hj
    by_cases hji : j = i
    · subst hji
      simp [hok]
    · exact (update_of_ne hji _ _).trans hok
  | @finish i hstat =>
    refine ⟨h.unmade, h.gone, h.last, h.once, fun hidle => (by cases hidle),
      fun _ => h.live (.inl hstat), fun _ j hj => ?_⟩
    cases (hown i true rfl hstat).symm.trans hj
    exact hfits
  | fail => exact h.setStatus (.inr rfl)
  | closeNothing hstat hcur =>
    obtain ⟨i, hi, -⟩ := h.live hstat
    cases hcur.symm.trans hi
  | closeService hstat hcur hstat' =>
    obtain ⟨i, hi, hopen⟩ := h.live hstat
    cases hcur.symm.trans hi
    exact h.closeService hcur hopen hstat'

lemma fits_self (hfits : call.Fits t)
    (hold : call = .startOrReload → t.status ≠ .stopping → ∀ i, t.current = some i →
      t.closes i = 0) : call'.Fits t' := by
  cases hnext with
  | @stop old hstat hcur => exact ⟨rfl, hcur, hold rfl hstat old hcur⟩
  | @closeOld old => exact ⟨hfits.1, old, hfits.2.1, closes_close_self hfits.2.2⟩
  | @start i ok =>
    cases ok with
    | true => simp [Call.Fits]
    | false => trivial
  | _ => trivial

lemma eq_of_stopping (hstat : t.status = .stopping) (hreloads : call.reloads = false) :
    t'.status = .stopping ∧ t'.current = t.current ∧ t'.closes = t.closes := by
  cases hnext with
  | refuse | start => exact ⟨hstat, rfl, rfl⟩
  | stop hne | create hne => exact absurd hstat hne
  | closeOld | reload => cases hreloads
  | finish hstarting => cases hstat.symm.trans hstarting
  | fail hfail =>
    rcases hfail with hfail | hne
    · cases hreloads.symm.trans hfail
    · exact absurd hstat hne
  | closeNothing hlive | closeService hlive =>
    rcases hlive with hlive | hlive <;> cases hstat.symm.trans hlive

lemma startedOk (h : t.startedOk i) : t'.startedOk i := by
  cases hnext with
  | @start j ok =>
    by_cases hij : i = j
    · subst hij
      simp [h]
    · exact (update_of_ne hij _ _).trans h
  | _ => exact h

lemma fits_other (hoth : other.Fits t)
    (hsingle : other.reloads → call.reloads = false) : other.Fits t' := by
  cases other with
  | closeOld old =>
    obtain ⟨hstat, hcur, hcloses⟩ := hnext.eq_of_stopping hoth.1 (hsingle rfl)
    exact ⟨hstat, hcur.trans hoth.2.1, hcloses ▸ hoth.2.2⟩
  | reload =>
    obtain ⟨hstat, hcur, hcloses⟩ := hnext.eq_of_stopping hoth.1 (hsingle rfl)
    obtain ⟨old, hold, hcl⟩ := hoth.2
    exact ⟨hstat, old, hcur.trans hold, hcloses ▸ hcl⟩
  | finish i ok =>
    cases ok with
    | true => exact hnext.startedOk hoth
    | false => trivial
  | _ => trivial

lemma reloads (hreloads : call'.reloads) : call.reloads ∨ t.status ≠ .stopping := by
  cases hnext with
  | stop hstat => exact .inr hstat
  | closeOld => exact .inl rfl
  | _ => cases hreloads

end

end Next

lemma inv_start : Inv .start where
  sound :=
    { unmade := fun _ _ => rfl
      gone := fun i hi => absurd hi (Nat.not_lt_zero i)
      last := fun i hi => by cases hi
      once := fun i hi => by cases hi
      idle := fun _ => rfl
      live := fun h => by rcases h with h | h <;> cases h
      started := fun h => by cases h }
  calls j call hj := by cases hj
  single := Nat.zero_le 1

lemma Inv.newCall (h : Inv s) (kind : Kind) : Inv ⟨s.shared, s.procs ++ [kind.start]⟩ where
  sound := h.sound
  calls := forall_append h.calls fun _ => by cases kind <;> trivial
  single := by
    have hst : kind.start.reloads = false := by cases kind <;> rfl
    rw [List.countP_append, List.countP_singleton, hst]
    exact h.single

lemma Inv.move (h : Inv s) (hi : s.procs[i]? = some call) (hnext : Next s.shared call t' call')
    (hold : call = .startOrReload → s.shared.status ≠ .stopping → ∀ i, s.shared.current = some i →
      s.shared.closes i = 0) (hown : ∀ i ok, call = .finish i ok → s.shared.status = .starting →
      s.shared.current = some i) : Inv (s.set i (t', call')) := by
  have hfits := h.calls i call hi
  refine ⟨hnext.sound h.sound hfits hold hown, fun j other hj => ?_, ?_⟩
  · by_cases hij : j = i
    · subst hij
      obtain rfl : call' = other := by
        have hself := List.getElem?_set_self (a := call') (List.getElem?_eq_some_iff.1 hi).1
        exact Option.some.inj (hself.symm.trans hj)
      exact hnext.fits_self hfits hold
    · have hj' : s.procs[j]? = some other := (List.getElem?_set_ne (Ne.symm hij)).symm.trans hj
      refine hnext.fits_other (h.calls j other hj') fun hreloads => ?_
      exact false_of_countP_le_one h.single hj' hreloads hi (Ne.symm hij)
  · have hcnt := @Processes.countP_set _ _ s i call (t', call') Call.reloads hi
    have hsingle := h.single
    cases hreloads' : call'.reloads with
    | false =>
      rw [hreloads', Bool.toNat_false] at hcnt
      omega
    | true =>
      rw [hreloads', Bool.toNat_true] at hcnt
      rcases hnext.reloads hreloads' with hreloads | hstat
      · rw [hreloads, Bool.toNat_true] at hcnt
        omega
      · -- Nobody is closing an instance.
        have hzero : s.procs.countP Call.reloads = 0 := by
          refine List.countP_eq_zero.2 fun other hoth hreloads => hstat ?_
          obtain ⟨j, hj⟩ := List.mem_iff_getElem?.1 hoth
          exact (h.calls j other hj).stopping hreloads
        omega

def carefulCalls : List Action :=
  [.call .startOrReloadService, .move 0 true, .move 0 true, .move 0 true,
    .call .startOrReloadService, .move 1 true, .move 1 true, .move 1 true, .move 1 false,
    .move 1 true, .call .startOrReloadService, .move 2 true, .move 2 true, .move 2 true,
    .move 2 true, .move 2 true, .call .closeService, .move 3 true]

/-- The lifecycle is safe in every run of careful steps. -/
theorem safe_of_careful_calls
    (h : Run (step protocol) (careful · · = true) State.start s) : Safe s.shared := by
  have hinv : Inv s := by
    refine invariant_of_run h inv_start (fun s kind hinv => hinv.newCall kind) ?_
    intro s i ok call hinv hi hcare
    refine hinv.move hi (next_spec ok s.shared call) ?_ ?_
    · rintro rfl hstat j hj
      simpa [careful, hi, hstat, hj] using hcare
    · rintro j started rfl hstat
      simpa [careful, hi, hstat] using hcare
  exact hinv.sound.safe

theorem safe_carefulCalls : Safe (carefulCalls.foldl (step protocol) State.start).shared :=
  safe_of_careful_calls (Run.start.foldl (by decide +kernel))

/-- A start is taken for its successor's; an instance is closed twice. -/
theorem not_safe_calls :
    ¬Safe ([.call .startOrReloadService, .move 0 true, .call .startOrReloadService, .move 1 true,
      .move 1 true, .move 1 true, .move 0 true, .move 0 true].foldl (step protocol)
        State.start).shared ∧
    ¬Safe ([.call .startOrReloadService, .move 0 true, .move 0 true, .move 0 true,
      .call .startOrReloadService, .move 1 true, .move 1 true, .move 1 false,
      .call .startOrReloadService, .move 2 true, .move 2 true].foldl (step protocol)
        State.start).shared := by
  refine ⟨fun h => ?_, fun h => ?_⟩
  · obtain ⟨i, hcur, hok, -⟩ := h.started rfl
    cases hcur
    cases hok
  · exact absurd (h.once 0) (by decide +kernel)

end SingBox.Daemon
