import SingBox.Lib.Processes
import Mathlib.Data.Finset.Card

/-!
# References to a shared transport

A call flips the flag of its reference and adjusts the counter in two steps. A round trip then
acquires an epoch of the managed transport, which makes one if there is none; closing the idle
connections takes the epoch away. The connections of an epoch that has been taken away are closed
when its last round trip ends, so they are not followed here.
-/

namespace SingBox.HTTPClient.SharedRef
open List Processes

/-! ### The calls -/

structure Shared where
  idle : List Bool := []
  activeRefs : ℤ := 0
  /-- The current epoch, whose connections are kept. -/
  epoch : Option ℕ := none
  epochs : ℕ := 0

open Shared

inductive Call where
  | newSharedRef
  /-- `RoundTrip`: make the reference active if it is idle. -/
  | checkIdle (r : ℕ)
  | increment (r : ℕ)
  /-- `acquireEpoch` of the managed transport: load the epoch or make one. -/
  | getEpoch (r : ℕ)
  /-- Is it still the current one? -/
  | compareEpoch (r epoch : ℕ)
  /-- `CloseIdleConnections`: make the reference idle if it is active. -/
  | setIdle (r : ℕ)
  | decrement (r : ℕ)
  | closeIdle
  | done
deriving DecidableEq

inductive Kind where
  | newSharedRef
  | roundTrip (r : ℕ)
  | closeIdleConnections (r : ℕ)

def Kind.start : Kind → Call
  | .newSharedRef => .newSharedRef
  | .roundTrip r => .checkIdle r
  | .closeIdleConnections r => .setIdle r

/-- `fails` is the outcome of the factory. -/
def next (fails : Bool) (t : Shared) : Call → Shared × Call
  | .newSharedRef =>
    ({ t with idle := t.idle ++ [false], activeRefs := t.activeRefs + 1 }, .done)
  | .checkIdle r => match t.idle[r]? with
    | some true => ({ t with idle := t.idle.set r false }, .increment r)
    | some false => (t, .getEpoch r)
    | none => (t, .done)
  | .increment r => ({ t with activeRefs := t.activeRefs + 1 }, .getEpoch r)
  | .getEpoch r => match t.epoch with
    | some epoch => (t, .compareEpoch r epoch)
    | none =>
      if fails then (t, .done)
      else ({ t with epoch := some t.epochs, epochs := t.epochs + 1 }, .compareEpoch r t.epochs)
  | .compareEpoch r epoch => if t.epoch = some epoch then (t, .done) else (t, .getEpoch r)
  | .setIdle r => match t.idle[r]? with
    | some false => ({ t with idle := t.idle.set r true }, .decrement r)
    | _ => (t, .done)
  | .decrement _ =>
    let t := { t with activeRefs := t.activeRefs - 1 }
    if t.activeRefs = 0 then (t, .closeIdle) else (t, .done)
  | .closeIdle => ({ t with epoch := none }, .done)
  | .done => (t, .done)

def protocol : Protocol Shared Call Kind Bool := ⟨Kind.start, fun _ fails => next fails⟩

abbrev State := Processes Shared Call

abbrev Action := Processes.Action Kind Bool

def State.start : State := ⟨{}, []⟩

def State.after (actions : List Action) : State := actions.foldl (.step protocol) .start

def Shared.active (t : Shared) : ℕ := t.idle.countP fun idle => !idle

/-! ### What is to hold -/

def Quiescent (s : State) : Prop := ∀ call ∈ s.procs, call = .done

structure Safe (s : State) : Prop where
  counter : Quiescent s → s.shared.activeRefs = s.shared.active
  nonneg : 0 ≤ s.shared.activeRefs
  /-- When all references are idle, the connections are closed. -/
  closed : Quiescent s → s.shared.active = 0 → s.shared.epoch = none

namespace Call

def flips (r : ℕ) : Call → Bool
  | .increment r' | .decrement r' => r' = r
  | _ => false

def increments : Call → Bool
  | .increment _ => true
  | _ => false

def decrements : Call → Bool
  | .decrement _ => true
  | _ => false

def closes : Call → Bool
  | .decrement _ | .closeIdle => true
  | _ => false

end Call

open Call

/-- The counter is right for a flag that is flipped, and an epoch is made for an active one. -/
def careful (s : State) : Action → Bool
  | .call _ => true
  | .move i fails =>
    match s.procs[i]? with
    | some (.checkIdle r) => s.shared.idle[r]? != some true || s.procs.countP (flips r) == 0
    | some (.setIdle r) => s.shared.idle[r]? != some false || s.procs.countP (flips r) == 0
    | some (.getEpoch r) => fails || s.shared.epoch.isSome || s.shared.idle[r]? == some false
    | _ => true

/-! ### One step -/

inductive Next (fails : Bool) (t : Shared) : Call → Shared → Call → Prop where
  | newSharedRef : Next fails t .newSharedRef
      { t with idle := t.idle ++ [false], activeRefs := t.activeRefs + 1 } .done
  | activate {r} : t.idle[r]? = some true →
      Next fails t (.checkIdle r) { t with idle := t.idle.set r false } (.increment r)
  | check {r} : Next fails t (.checkIdle r) t (.getEpoch r)
  | increment {r} :
      Next fails t (.increment r) { t with activeRefs := t.activeRefs + 1 } (.getEpoch r)
  | load {r epoch} : t.epoch = some epoch → Next fails t (.getEpoch r) t (.compareEpoch r epoch)
  | factoryFails {r} : t.epoch = none → Next fails t (.getEpoch r) t .done
  | create {r} : t.epoch = none → ¬fails → Next fails t (.getEpoch r)
      { t with epoch := some t.epochs, epochs := t.epochs + 1 } (.compareEpoch r t.epochs)
  | acquired {r epoch} : Next fails t (.compareEpoch r epoch) t .done
  | released {r epoch} : Next fails t (.compareEpoch r epoch) t (.getEpoch r)
  | deactivate {r} : t.idle[r]? = some false →
      Next fails t (.setIdle r) { t with idle := t.idle.set r true } (.decrement r)
  | decrement {r} : Next fails t (.decrement r) { t with activeRefs := t.activeRefs - 1 } .closeIdle
  | decrementUsed {r} : t.activeRefs - 1 ≠ 0 →
      Next fails t (.decrement r) { t with activeRefs := t.activeRefs - 1 } .done
  | closeIdle : Next fails t .closeIdle { t with epoch := none } .done
  | checkNone {r} : Next fails t (.checkIdle r) t .done
  | skip {r} : Next fails t (.setIdle r) t .done
  | done : Next fails t .done t .done

lemma next_spec (fails : Bool) (t : Shared) (call : Call) :
    Next fails t call (next fails t call).1 (next fails t call).2 := by
  fun_cases next fails t call <;> constructor <;> assumption

variable {fails : Bool} {t t' : Shared} {call call' : Call} {r : ℕ}

lemma active_set {b : Bool} (b' : Bool) (h : t.idle[r]? = some b) :
    (t.idle.set r b').countP (fun idle => !idle) + (!b).toNat = t.active + (!b').toNat :=
  countP_list_set (fun idle => !idle) b' h

namespace Next

lemma balance (h : Next fails t call t' call') :
    (t'.activeRefs + call'.increments.toNat + t.active + call.decrements.toNat : ℤ) =
    t.activeRefs + call.increments.toNat + t'.active + call'.decrements.toNat := by
  cases h with
  | newSharedRef =>
    simp only [active, countP_append, increments, decrements]
    simp
    omega
  | activate hidle =>
    have := active_set false hidle
    simp_all [active, increments, decrements]
    omega
  | deactivate hidle =>
    have := active_set true hidle
    simp_all [active, increments, decrements]
    omega
  | _ =>
    simp [active, increments, decrements] <;> omega

lemma idle (h : Next fails t call t' call') {flag : Bool} (hr : t.idle[r]? = some flag) :
    t'.idle[r]? = some flag ∨ call.flips r = false ∧ call'.flips r := by
  cases h with
  | newSharedRef =>
    exact .inl ((getElem?_append_left (List.getElem?_eq_some_iff.1 hr).1).trans hr)
  | @activate r₀ | @deactivate r₀ =>
    by_cases hr₀ : r₀ = r
    · exact .inr ⟨rfl, by simp [flips, hr₀]⟩
    · exact .inl ((getElem?_set_ne hr₀).trans hr)
  | _ => exact .inl hr

end Next

/-! ### Counting references -/

def flipping (s : State) (r : ℕ) : ℕ := s.procs.countP (flips r)

/-- The reference is active, or about to be taken out of the counter. -/
def Counted (s : State) (r : ℕ) : Prop := s.shared.idle[r]? = some false ∧ flipping s r = 0 ∨
    s.shared.idle[r]? = some true ∧ flipping s r = 1

def Call.Fits (t : Shared) : Call → Prop
  | .increment r => t.idle[r]? = some false
  | .decrement r => t.idle[r]? = some true
  | _ => True

def Balanced (s : State) : Prop := s.shared.activeRefs + s.procs.countP increments =
    s.shared.active + s.procs.countP decrements

structure Inv (s : State) : Prop where
  balanced : Balanced s
  single : ∀ r, flipping s r ≤ 1
  fits : ∀ call ∈ s.procs, call.Fits s.shared
  /-- The counter is the number of references it includes. -/
  counted : ∃ refs : Finset ℕ, s.shared.activeRefs = refs.card ∧ ∀ r, r ∈ refs ↔ Counted s r
  connections : s.shared.epoch ≠ none → 0 < s.shared.active ∨ ∃ call ∈ s.procs, call.closes

variable {s : State} {i : ℕ}

lemma start_spec (kind : Kind) : kind.start.increments = false ∧ kind.start.decrements = false ∧
    (∀ r, kind.start.flips r = false) ∧ ∀ t, kind.start.Fits t := by
  cases kind <;> exact ⟨rfl, rfl, fun _ => rfl, fun _ => trivial⟩

lemma balanced_step (h : Balanced s) (action : Action) : Balanced (s.step protocol action) := by
  cases action with
  | call kind =>
    obtain ⟨hincr, hdecr, -⟩ := start_spec kind
    unfold Balanced
    rw [countP_call _ hincr, countP_call _ hdecr]
    exact h
  | move i choice =>
    cases hi : s.procs[i]? with
    | none => exact (step_move_none hi).symm ▸ h
    | some call =>
      rw [step_move hi]
      have hincr := @Processes.countP_set _ _ s i call (next choice s.shared call) increments hi
      have hdecr := @Processes.countP_set _ _ s i call (next choice s.shared call) decrements hi
      have hbalance := (next_spec choice s.shared call).balance
      have hold : s.shared.activeRefs + s.procs.countP increments =
        s.shared.active + s.procs.countP decrements := h
      show (next choice s.shared call).1.activeRefs +
        ((s.set i (next choice s.shared call)).procs.countP increments : ℤ) =
          (next choice s.shared call).1.active +
            (s.set i (next choice s.shared call)).procs.countP decrements
      omega

lemma Balanced.counter (h : Balanced s) (hquiescent : Quiescent s) :
    s.shared.activeRefs = s.shared.active := by
  have hzero : ∀ p : Call → Bool, p .done = false → s.procs.countP p = 0 := by
    intro p hp
    refine countP_eq_zero.2 fun call hcall => ?_
    rw [hquiescent call hcall, hp]
    exact Bool.false_ne_true
  have hincr := hzero increments rfl
  have hdecr := hzero decrements rfl
  unfold Balanced at h
  omega

section
variable {refs : Finset ℕ}

lemma flipping_set (hi : s.procs[i]? = some call) (r : ℕ) :
    flipping (s.set i (t', call')) r + (call.flips r).toNat =
    flipping s r + (call'.flips r).toNat :=
  countP_set (flips r) hi

lemma flipping_after (hi : s.procs[i]? = some call) (t' : Shared) (hcall : call.flips r = false)
    (hcall' : call'.flips r) : flipping (s.set i (t', call')) r = flipping s r + 1 := by
  simpa [hcall, hcall'] using @flipping_set t' call call' s i hi r

lemma counted_iff {flag : Bool} (h : s.shared.idle[r]? = some flag) :
    Counted s r ↔ flipping s r = flag.toNat := by
  cases flag <;> simp [Counted, h]

lemma counted_set_congr (hi : s.procs[i]? = some call)
    (hidle : t'.idle[r]? = s.shared.idle[r]?) (hflips : call'.flips r = call.flips r) :
    Counted (s.set i (t', call')) r ↔ Counted s r := by
  have hflipping := @flipping_set t' call call' s i hi r
  rw [hflips] at hflipping
  unfold Counted
  rw [Nat.add_right_cancel hflipping]
  exact Iff.of_eq (congrArg (fun flag => flag = some false ∧ _ ∨ flag = some true ∧ _) hidle)

lemma Call.Fits.ne_none (h : call.Fits t) (hflips : call.flips r) : t.idle[r]? ≠ none := by
  cases call with
  | increment r' | decrement r' =>
    obtain rfl : r' = r := by simpa [flips] using hflips
    exact fun hnone => Option.some_ne_none _ (h.symm.trans hnone)
  | _ => exact absurd hflips Bool.false_ne_true

lemma Inv.flipping_eq_zero (h : Inv s) (hr : s.shared.idle[r]? = none) : flipping s r = 0 := by
  refine countP_eq_zero.2 fun call hcall hflips => ?_
  exact (h.fits call hcall).ne_none hflips hr

lemma Inv.flipping_eq_one (h : Inv s) (hi : s.procs[i]? = some call)
    (hflips : call.flips r) : flipping s r = 1 := by
  have hpos : 0 < flipping s r := countP_pos_iff.2 ⟨call, mem_of_getElem? hi, hflips⟩
  have := h.single r
  omega

lemma Inv.flipping_adjusted (h : Inv s) (hi : s.procs[i]? = some call) (t' : Shared)
    (hcall : call.flips r) (hcall' : call'.flips r = false) :
    flipping s r = 1 ∧ flipping (s.set i (t', call')) r = 0 := by
  have hone := h.flipping_eq_one hi hcall
  have hset := @flipping_set t' call call' s i hi r
  rw [hcall, hcall', hone] at hset
  exact ⟨hone, Nat.add_right_cancel hset⟩

lemma getElem?_set_flag {flag : Bool} (flag' : Bool) (h : t.idle[r]? = some flag) :
    (t.idle.set r flag')[r]? = some flag' :=
  getElem?_set_self (List.getElem?_eq_some_iff.1 h).1

lemma flips_increment_of_ne {r₀ : ℕ} (hr : r ≠ r₀) : (increment r₀).flips r = false := by
  simp [flips, Ne.symm hr]

lemma flips_decrement_of_ne {r₀ : ℕ} (hr : r ≠ r₀) : (decrement r₀).flips r = false := by
  simp [flips, Ne.symm hr]

lemma flips_increment (r₀ : ℕ) : (increment r₀).flips r₀ := by simp [flips]

lemma flips_decrement (r₀ : ℕ) : (decrement r₀).flips r₀ := by simp [flips]

inductive Recount (s s' : State) : Prop where
  | same (hrefs : s'.shared.activeRefs = s.shared.activeRefs)
      (hcounted : ∀ r, Counted s' r ↔ Counted s r)
  | added (r₀ : ℕ) (hrefs : s'.shared.activeRefs = s.shared.activeRefs + 1)
      (hnew : ¬Counted s r₀) (hcounted : ∀ r, Counted s' r ↔ r = r₀ ∨ Counted s r)
  | removed (r₀ : ℕ) (hrefs : s'.shared.activeRefs = s.shared.activeRefs - 1)
      (hold : Counted s r₀) (hcounted : ∀ r, Counted s' r ↔ r ≠ r₀ ∧ Counted s r)

lemma Recount.counted {s' : State} (h : Recount s s')
    (hs : ∃ refs : Finset ℕ, s.shared.activeRefs = refs.card ∧ ∀ r, r ∈ refs ↔ Counted s r) :
    ∃ refs : Finset ℕ, s'.shared.activeRefs = refs.card ∧ ∀ r, r ∈ refs ↔ Counted s' r := by
  obtain ⟨refs, hcard, hmem⟩ := hs
  cases h with
  | same hrefs hcounted =>
    exact ⟨refs, hrefs.trans hcard, fun r => (hmem r).trans (hcounted r).symm⟩
  | added r₀ hrefs hnew hcounted =>
    refine ⟨insert r₀ refs, ?_, fun r => ?_⟩
    · rw [hrefs, hcard, Finset.card_insert_of_notMem (mt (hmem r₀).1 hnew)]
      exact (Int.natCast_succ _).symm
    · rw [Finset.mem_insert, hmem, hcounted]
  | removed r₀ hrefs hold hcounted =>
    refine ⟨refs.erase r₀, ?_, fun r => ?_⟩
    · have hcard' := Finset.card_erase_add_one ((hmem r₀).2 hold)
      omega
    · rw [Finset.mem_erase, hmem, hcounted]

lemma Inv.recount_decrement {r₀ : ℕ} (h : Inv s) (hi : s.procs[i]? = some (.decrement r₀))
    (hcall' : ∀ r, call'.flips r = false) :
    Recount s (s.set i ({ s.shared with activeRefs := s.shared.activeRefs - 1 }, call')) := by
  have hidle : s.shared.idle[r₀]? = some true := h.fits _ (mem_of_getElem? hi)
  obtain ⟨hone, hzero⟩ := h.flipping_adjusted hi
    { s.shared with activeRefs := s.shared.activeRefs - 1 } (flips_decrement r₀) (hcall' r₀)
  have hafter := @counted_iff _ (s.set i
    ({ s.shared with activeRefs := s.shared.activeRefs - 1 }, call')) true hidle
  refine .removed r₀ rfl ((counted_iff hidle).2 hone) fun r => ?_
  by_cases hr : r = r₀
  · subst hr
    refine iff_of_false (fun hcounted => ?_) fun hcounted => hcounted.1 rfl
    exact absurd (hzero.symm.trans (hafter.1 hcounted)) (by decide)
  · rw [and_iff_right hr]
    exact counted_set_congr hi rfl ((hcall' r).trans (flips_decrement_of_ne hr).symm)

lemma Inv.recount (h : Inv s) (hi : s.procs[i]? = some call)
    (hnext : Next fails s.shared call t' call')
    (hcare : ∀ r, call.flips r = false → call'.flips r → flipping s r = 0) :
    Recount s (s.set i (t', call')) := by
  cases hnext with
  | newSharedRef =>
    have hnone : s.shared.idle[s.shared.idle.length]? = none := getElem?_eq_none (le_refl _)
    refine .added s.shared.idle.length rfl (by simp [Counted]) fun r => ?_
    by_cases hr : r = s.shared.idle.length
    · subst hr
      refine iff_of_true ((counted_iff getElem?_concat_length).2 ?_) (.inl rfl)
      exact (flipping_set hi _).trans (h.flipping_eq_zero hnone)
    · have hidle : (s.shared.idle ++ [false])[r]? = s.shared.idle[r]? := by
        rcases lt_or_ge r s.shared.idle.length with hlt | hge
        · exact getElem?_append_left hlt
        · rw [getElem?_eq_none hge, getElem?_eq_none]
          rw [length_append, length_singleton]
          omega
      rw [or_iff_right hr]
      exact counted_set_congr hi hidle rfl
  | @activate r₀ hidle =>
    refine .same rfl fun r => ?_
    by_cases hr : r = r₀
    · subst hr
      -- The reference is not counted before and after.
      have hzero := hcare r rfl (flips_increment r)
      have hone := flipping_after hi { s.shared with idle := s.shared.idle.set r false } rfl
        (flips_increment r)
      rw [counted_iff hidle, counted_iff (getElem?_set_flag false hidle), hone, hzero]
      decide
    · exact counted_set_congr hi (getElem?_set_ne (Ne.symm hr)) (flips_increment_of_ne hr)
  | @deactivate r₀ hidle =>
    refine .same rfl fun r => ?_
    by_cases hr : r = r₀
    · subst hr
      -- The reference is counted until the counter is adjusted.
      have hzero := hcare r rfl (flips_decrement r)
      have hone := flipping_after hi { s.shared with idle := s.shared.idle.set r true } rfl
        (flips_decrement r)
      rw [counted_iff hidle, counted_iff (getElem?_set_flag true hidle), hone, hzero]
      decide
    · exact counted_set_congr hi (getElem?_set_ne (Ne.symm hr)) (flips_decrement_of_ne hr)
  | @increment r₀ =>
    have hidle : s.shared.idle[r₀]? = some false := h.fits _ (mem_of_getElem? hi)
    obtain ⟨hone, hzero⟩ := @Inv.flipping_adjusted _ (.getEpoch r₀) _ _ _ h hi
      { s.shared with activeRefs := s.shared.activeRefs + 1 } (flips_increment r₀) rfl
    have hafter := @counted_iff _ (s.set i
      ({ s.shared with activeRefs := s.shared.activeRefs + 1 }, .getEpoch r₀)) false hidle
    refine .added r₀ rfl ?_ fun r => ?_
    · rw [counted_iff hidle, hone]
      decide
    · by_cases hr : r = r₀
      · subst hr
        exact iff_of_true (hafter.2 hzero) (.inl rfl)
      · rw [or_iff_right hr]
        exact counted_set_congr hi rfl (flips_increment_of_ne hr).symm
  | decrement | decrementUsed => exact h.recount_decrement hi fun _ => rfl
  | _ => exact .same rfl fun r => counted_set_congr hi rfl rfl

lemma flipping_of_careful (hi : s.procs[i]? = some call)
    (hnext : Next fails s.shared call t' call') (hcare : careful s (.move i fails))
    (hcall : call.flips r = false) (hcall' : call'.flips r) : flipping s r = 0 := by
  cases hnext with
  | @activate r₀ hidle | @deactivate r₀ hidle =>
    obtain rfl : r₀ = r := by simpa [flips] using hcall'
    simpa [careful, hi, hidle, flipping] using hcare
  | _ => exact absurd hcall' Bool.false_ne_true

lemma Next.fits_self (hnext : Next fails t call t' call') : call'.Fits t' := by
  cases hnext with
  | activate hidle => exact getElem?_set_flag false hidle
  | deactivate hidle => exact getElem?_set_flag true hidle
  | _ => trivial

lemma Next.fits_other {other : Call} (hnext : Next fails t call t' call') (hoth : other.Fits t)
    (hflips : ∀ r, call.flips r = false → call'.flips r → other.flips r = false) :
    other.Fits t' := by
  cases other with
  | increment r | decrement r =>
    rcases hnext.idle hoth with hidle | ⟨hcall, hcall'⟩
    · exact hidle
    · simpa [flips] using hflips r hcall hcall'
  | _ => trivial

lemma Call.closes_of_decrements (h : call.decrements) : call.closes := by
  cases call <;> simp_all [decrements, closes]

lemma active_pos (h : t.idle[r]? = some false) : 0 < t.active :=
  countP_pos_iff.2 ⟨false, mem_of_getElem? h, rfl⟩

lemma Inv.connections_set (h : Inv s) (hi : s.procs[i]? = some call)
    (hnext : Next fails s.shared call t' call') (hcare : careful s (.move i fails))
    (hbalanced : Balanced (s.set i (t', call'))) (hnonneg : 0 ≤ t'.activeRefs)
    (hconns : t'.epoch ≠ none) :
    0 < t'.active ∨ ∃ other ∈ (s.set i (t', call')).procs, other.closes := by
  have hself : call' ∈ (s.set i (t', call')).procs :=
    @Processes.mem_set_self _ _ _ _ _ (t', call') hi
  cases hnext with
  | newSharedRef => exact .inl (active_pos getElem?_concat_length)
  | activate hidle => exact .inl (active_pos (getElem?_set_flag false hidle))
  | @create r hnone hfails =>
    have hidle : s.shared.idle[r]? = some false := by simpa [careful, hi, hnone, hfails] using hcare
    exact .inl (active_pos hidle)
  | deactivate | decrement => exact .inr ⟨_, hself, rfl⟩
  | decrementUsed hused =>
    -- The counter is positive, so a reference is active or another call is about to decrement it.
    unfold Balanced at hbalanced
    have hpos : 0 < s.shared.active ∨
        0 < (s.set i ({ s.shared with activeRefs := s.shared.activeRefs - 1 },
          .done)).procs.countP decrements := by
      simp only [Processes.set, active] at hbalanced hnonneg ⊢
      omega
    refine hpos.imp_right fun hpos => ?_
    obtain ⟨other, hoth, hdecr⟩ := countP_pos_iff.1 hpos
    exact ⟨other, hoth, closes_of_decrements hdecr⟩
  | closeIdle => exact absurd rfl hconns
  | _ =>
    rcases h.connections hconns with hactive | ⟨other, hoth, hcloses⟩
    · exact .inl hactive
    · rcases mem_set_of_mem hi hoth with rfl | hoth
      · exact absurd hcloses Bool.false_ne_true
      · exact .inr ⟨other, hoth, hcloses⟩

lemma Inv.nonneg (h : Inv s) : 0 ≤ s.shared.activeRefs := by
  obtain ⟨refs, hcard, -⟩ := h.counted
  omega

lemma inv_move (h : Inv s) (hi : s.procs[i]? = some call)
    (hnext : Next fails s.shared call t' call') (hcare : careful s (.move i fails))
    (hbalanced : Balanced (s.set i (t', call'))) : Inv (s.set i (t', call')) := by
  have hflip : ∀ r, call.flips r = false → call'.flips r → flipping s r = 0 :=
    fun r => flipping_of_careful hi hnext hcare
  have hcounted := (h.recount hi hnext hflip).counted h.counted
  refine ⟨hbalanced, fun r => ?_, fun other hoth => ?_, hcounted, ?_⟩
  · have hset := @flipping_set t' call call' s i hi r
    have hsingle := h.single r
    have hle := Bool.toNat_le (call'.flips r)
    cases hcall : call.flips r with
    | true =>
      rw [hcall, Bool.toNat_true] at hset
      omega
    | false =>
      cases hcall' : call'.flips r with
      | true =>
        have hzero := hflip r hcall hcall'
        omega
      | false =>
        rw [hcall, hcall'] at hset
        exact (Nat.add_right_cancel hset).trans_le hsingle
  · rcases mem_of_set hoth with hoth | rfl
    · refine hnext.fits_other (h.fits other hoth) fun r hcall hcall' => ?_
      exact Bool.of_not_eq_true (countP_eq_zero.1 (hflip r hcall hcall') other hoth)
    · exact hnext.fits_self
  · have hnonneg : 0 ≤ t'.activeRefs := by
      obtain ⟨refs, hcard, -⟩ := hcounted
      exact hcard ▸ Int.natCast_nonneg _
    exact h.connections_set hi hnext hcare hbalanced hnonneg

lemma inv_call (h : Inv s) (kind : Kind) : Inv (s.step protocol (.call kind)) := by
  obtain ⟨-, -, hflips, hfits⟩ := start_spec kind
  have hflipping : ∀ r, flipping (s.step protocol (.call kind)) r = flipping s r :=
    fun r => countP_call _ (hflips r)
  refine ⟨balanced_step h.balanced (.call kind), fun r => ?_, ?_, ?_, fun hconns => ?_⟩
  · rw [hflipping]
    exact h.single r
  · exact forall_mem_append.2 ⟨h.fits, forall_mem_singleton.2 (hfits s.shared)⟩
  · obtain ⟨refs, hcard, hmem⟩ := h.counted
    refine ⟨refs, hcard, fun r => (hmem r).trans ?_⟩
    unfold Counted
    rw [hflipping]
    exact Iff.rfl
  · refine (h.connections hconns).imp_right fun hcall => ?_
    obtain ⟨call, hcall, hcloses⟩ := hcall
    exact ⟨call, mem_append_left _ hcall, hcloses⟩

end

lemma inv_start : Inv .start where
  balanced := rfl
  single _ := Nat.zero_le _
  fits call hcall := by simp [State.start] at hcall
  counted := ⟨∅, rfl, fun r => by simp [Counted, State.start]⟩
  connections h := by simp [State.start] at h

lemma inv_step (h : Inv s) (action : Action) (hcare : careful s action) :
    Inv (s.step protocol action) := by
  cases action with
  | call kind => exact inv_call h kind
  | move i choice =>
    cases hi : s.procs[i]? with
    | none => exact (step_move_none hi).symm ▸ h
    | some call =>
      have hbalanced := balanced_step h.balanced (.move i choice)
      rw [step_move hi] at hbalanced ⊢
      exact inv_move h hi (next_spec choice s.shared call) hcare hbalanced

lemma safe_of_inv (h : Inv s) : Safe s where
  counter := h.balanced.counter
  nonneg := h.nonneg
  closed hquiescent hactive := by
    by_contra hconns
    rcases h.connections hconns with hpos | ⟨call, hcall, hcloses⟩
    · omega
    · rw [hquiescent call hcall] at hcloses
      exact Bool.false_ne_true hcloses

def twoReferences : List Action :=
  [.call .newSharedRef, .move 0 false, .call .newSharedRef, .move 1 false,
    .call (.roundTrip 0), .move 2 false, .move 2 false, .move 2 false,
    .call (.closeIdleConnections 0), .move 3 false, .move 3 false,
    .call (.closeIdleConnections 1), .move 4 false, .move 4 false, .move 4 false,
    .call (.roundTrip 1), .move 5 false, .move 5 false, .move 5 false, .move 5 false,
    .call (.closeIdleConnections 1), .move 6 false, .move 6 false, .move 6 false]

def flippedTwice : List Action := [.call .newSharedRef, .move 0 false,
    .call (.closeIdleConnections 0), .move 1 false,
    .call (.roundTrip 0), .move 2 false,
    .call (.closeIdleConnections 0), .move 3 false,
    .move 1 false, .move 1 false, .move 3 false]

/-- The connections are closed when the round trip has been begun and has no epoch yet. -/
def usedLate : List Action := [.call .newSharedRef, .move 0 false,
    .call (.roundTrip 0), .move 1 false,
    .call (.closeIdleConnections 0), .move 2 false, .move 2 false, .move 2 false,
    .move 1 false, .move 1 false]

/-- If flags are not flipped while the counter is behind and only active references are used, the
counter is right. -/
theorem references_safe_of_careful {s : State}
    (h : Run (Processes.step protocol) (fun s action => careful s action = true) State.start s) :
    Safe s :=
  safe_of_inv (h.invariant inv_start fun _ action hs => inv_step hs action)

theorem references_safe_of_careful_twoReferences :
    (State.after twoReferences).shared.idle = [true, true] ∧ Safe (State.after twoReferences) :=
  ⟨by decide +kernel, references_safe_of_careful (Run.start.foldl (by decide +kernel))⟩

/-- The counter is negative; connections are left when all are idle. -/
theorem not_safe_flippedTwice_usedLate :
    (State.after flippedTwice).shared.activeRefs = -1 ∧ ¬Safe (State.after flippedTwice) ∧
      Quiescent (State.after usedLate) ∧ (State.after usedLate).shared.idle = [true] ∧
      (State.after usedLate).shared.epoch = some 0 ∧ ¬Safe (State.after usedLate) := by
  have hnegative : (State.after flippedTwice).shared.activeRefs = -1 := by decide +kernel
  have hquiescent : Quiescent (State.after usedLate) := by
    unfold Quiescent
    decide +kernel
  have hidle : (State.after usedLate).shared.idle = [true] := by decide +kernel
  have hconns : (State.after usedLate).shared.epoch = some 0 := by decide +kernel
  refine ⟨hnegative, fun hsafe => ?_, hquiescent, hidle, hconns, fun hsafe => ?_⟩
  · have := hsafe.nonneg
    omega
  · have hcl := hsafe.closed hquiescent (by simp [active, hidle])
    exact Option.some_ne_none _ (hconns.symm.trans hcl)

end SingBox.HTTPClient.SharedRef
