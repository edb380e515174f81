import SingBox.Lib.Processes
import Mathlib.Data.Int.Notation

/-!
# Epochs of a managed transport

A replaced transport is closed when its last user is gone; users are counted without a lock. `Next`
lists the steps of a call, and the invariant is derived from it.
-/

namespace SingBox.HTTPClient.Managed
open List Processes

/-! ### The calls -/

structure Epoch where
  active : ℤ := 0
  marked : Bool := false
  /-- The function of `closeOnce` was called. -/
  closeOnce : Bool := false
  closes : ℕ := 0

structure ManagedTransport where
  cheapRebuild : Bool
  epoch : Option ℕ := some 0
  rebuildAccess : Option ℕ := none
  epochs : ℕ → Epoch := fun _ => {}
  created : ℕ := 1

namespace ManagedTransport
variable (t : ManagedTransport)

def modify (e : ℕ) (f : Epoch → Epoch) : ManagedTransport :=
  { t with epochs := Function.update t.epochs e (f (t.epochs e)) }

def addActive (e : ℕ) (delta : ℤ) : ManagedTransport :=
  t.modify e fun epoch => { epoch with active := epoch.active + delta }

def storeMarked (e : ℕ) : ManagedTransport := t.modify e fun epoch => { epoch with marked := true }

def tryClose (e : ℕ) : ManagedTransport := t.modify e fun epoch =>
    if epoch.closeOnce then epoch else { epoch with closeOnce := true, closes := epoch.closes + 1 }

def storeNew : ManagedTransport := { t with epoch := some t.created, created := t.created + 1 }

end ManagedTransport

open ManagedTransport

/-- For `getEpoch`, or for `Reset`, which has the old epoch. -/
inductive Rebuild where
  | getEpoch
  | reset (oldEpoch : Option ℕ)

def Rebuild.oldEpoch : Rebuild → Option ℕ
  | .getEpoch => none
  | .reset oldEpoch => oldEpoch

inductive Call where
  | getEpoch
  | lock (rebuild : Rebuild)
  | load (rebuild : Rebuild)
  | build (rebuild : Rebuild)
  | unlock (rebuild : Rebuild) (epoch : Option ℕ)
  | acquire (e : ℕ)
  | recheck (e : ℕ)
  /-- The epoch is acquired. Start the round trip, or find a loopback. -/
  | acquired (e : ℕ)
  | running (e : ℕ)
  | body (e : ℕ)
  /-- Release it: in `acquireEpoch`, which tries `again`, or at the end. -/
  | release (e : ℕ) (again : Bool)
  | loadMarked (e : ℕ) (again : Bool)
  | tryClose (e : ℕ) (again : Bool)
  | swapCloseIdle
  | closeIdle (e : ℕ)
  | swapReset
  | storeMarked (e : ℕ)
  | loadActive (e : ℕ)
  | done

inductive Kind where
  | roundTrip
  | closeIdleConnections
  | reset

def Kind.start : Kind → Call
  | .roundTrip => .getEpoch
  | .closeIdleConnections => .swapCloseIdle
  | .reset => .swapReset

def retireEpoch : Option ℕ → Call
  | none => .done
  | some e => .storeMarked e

/-- After the lock; without an epoch, `getEpoch` has an error. -/
def Rebuild.after : Rebuild → Option ℕ → Call
  | .getEpoch, some e => .acquire e
  | .getEpoch, none => .done
  | .reset oldEpoch, _ => retireEpoch oldEpoch

def released (again : Bool) : Call := if again then .getEpoch else .done

/-- `ok` is a factory, a request or a response without failure. -/
def next (i : ℕ) (ok : Bool) (t : ManagedTransport) : Call → ManagedTransport × Call
  | .getEpoch => match t.epoch with
    | some e => (t, .acquire e)
    | none => (t, .lock .getEpoch)
  | .lock rebuild => match t.rebuildAccess with
    | none => ({ t with rebuildAccess := some i }, .load rebuild)
    | some _ => (t, .lock rebuild)
  | .load rebuild => match t.epoch with
    | some e => (t, .unlock rebuild (some e))
    | none => (t, .build rebuild)
  | .build rebuild =>
    if ok then (t.storeNew, .unlock rebuild (some t.created)) else (t, .unlock rebuild none)
  | .unlock rebuild epoch => ({ t with rebuildAccess := none }, rebuild.after epoch)
  | .acquire e => (t.addActive e 1, .recheck e)
  | .recheck e => if t.epoch = some e then (t, .acquired e) else (t, .release e true)
  | .acquired e => if ok then (t, .running e) else (t, .release e false)
  | .running e => if ok then (t, .body e) else (t, .release e false)
  | .body e => (t, .release e false)
  | .release e again =>
    let t := t.addActive e (-1)
    if (t.epochs e).active = 0 then (t, .loadMarked e again) else (t, released again)
  | .loadMarked e again =>
    if (t.epochs e).marked then (t, .tryClose e again) else (t, released again)
  | .tryClose e again => (t.tryClose e, released again)
  | .swapCloseIdle => match t.epoch with
    | none => (t, .done)
    | some e => ({ t with epoch := none }, .closeIdle e)
  | .closeIdle e => (t, .storeMarked e)
  | .swapReset =>
    if t.cheapRebuild then ({ t with epoch := none }, .lock (.reset t.epoch))
    else ({ t with epoch := none }, retireEpoch t.epoch)
  | .storeMarked e => (t.storeMarked e, .loadActive e)
  | .loadActive e => if (t.epochs e).active = 0 then (t, .tryClose e false) else (t, .done)
  | .done => (t, .done)

def protocol : Protocol ManagedTransport Call Kind Bool := ⟨Kind.start, next⟩

abbrev State := Processes ManagedTransport Call

abbrev Action := Processes.Action Kind Bool

variable (cheapRebuild : Bool)

def State.start : State := ⟨{ cheapRebuild }, []⟩

def State.after (actions : List Action) : State :=
  actions.foldl (.step protocol) (.start cheapRebuild)

namespace Call
variable (e : ℕ)

def uses : Call → Bool
  | .running e' | .body e' => e' = e
  | _ => false

def holds : Call → Bool
  | .acquired e' | .running e' | .body e' => e' = e
  | _ => false

def counts : Call → Bool
  | .recheck e' | .acquired e' | .running e' | .body e' | .release e' _ => e' = e
  | _ => false

def retires : Call → Bool
  | .lock rebuild | .load rebuild | .build rebuild => rebuild.oldEpoch = some e
  | .unlock rebuild _ => rebuild.oldEpoch = some e
  | .closeIdle e' | .storeMarked e' | .loadActive e' => e' = e
  | _ => false

def settles : Call → Bool
  | .loadMarked e' _ | .tryClose e' _ => e' = e
  | _ => false

def closing : Call → Bool
  | .tryClose e' _ => e' = e
  | _ => false

def involves (call : Call) : Bool := call.counts e || call.retires e || call.settles e

end Call

def ManagedTransport.Replaced (t : ManagedTransport) (e : ℕ) : Prop :=
  e < t.created ∧ t.epoch ≠ some e

/-! ### What is to hold -/

structure Safe (s : State) : Prop where
  once : ∀ e, (s.shared.epochs e).closes ≤ 1
  /-- Nothing is started, running or unread on an epoch that was closed. -/
  unused : ∀ e, ∀ call ∈ s.procs, call.uses e → (s.shared.epochs e).closes = 0
  /-- A replaced epoch is closed when all calls with it have ended. -/
  finished : ∀ e, s.shared.Replaced e → (∀ call ∈ s.procs, call.involves e = false) →
    (s.shared.epochs e).closes = 1

/-- When a release finds the mark, no call has acquired the epoch since. -/
def careful (s : State) : Action → Bool
  | .call _ => true
  | .move i _ =>
    match s.procs[i]? with
    | some (.loadMarked e _) => !(s.shared.epochs e).marked || s.procs.all fun call => !call.holds e
    | _ => true

def Call.locks : Call → Bool
  | .load _ | .build _ | .unlock _ _ => true
  | _ => false

structure Local (t : ManagedTransport) (i : ℕ) (call : Call) : Prop where
  replaced : ∀ e, call.retires e → t.Replaced e
  marked : ∀ e, call = .loadActive e → (t.epochs e).marked
  locked : call.locks → t.rebuildAccess = some i
  /-- Only the call with the lock stores an epoch. -/
  empty : ∀ rebuild, call = .build rebuild → t.epoch = none

/-- A replaced epoch will be closed: its counter is still to be looked at, or a marked one is in use
or being closed. -/
def Call.cares (t : ManagedTransport) (e : ℕ) (call : Call) : Prop := call.retires e ∨
    (t.epochs e).marked ∧ (call.counts e ∨ call.settles e)

/-! ### One step -/

/-- What a step of the call `i` can do, branch by branch. -/
inductive Next (i : ℕ) (t : ManagedTransport) : Call → ManagedTransport → Call → Prop where
  | getEpoch {e} : t.epoch = some e → Next i t .getEpoch t (.acquire e)
  | getEpochNone : t.epoch = none → Next i t .getEpoch t (.lock .getEpoch)
  | lock {rebuild} : t.rebuildAccess = none →
      Next i t (.lock rebuild) { t with rebuildAccess := some i } (.load rebuild)
  | wait {rebuild} : Next i t (.lock rebuild) t (.lock rebuild)
  | load {rebuild e} : t.epoch = some e → Next i t (.load rebuild) t (.unlock rebuild (some e))
  | loadNone {rebuild} : t.epoch = none → Next i t (.load rebuild) t (.build rebuild)
  | build {rebuild} : Next i t (.build rebuild) t.storeNew (.unlock rebuild (some t.created))
  | buildFailed {rebuild} : Next i t (.build rebuild) t (.unlock rebuild none)
  | unlock {rebuild epoch} :
      Next i t (.unlock rebuild epoch) { t with rebuildAccess := none } (rebuild.after epoch)
  | acquire {e} : Next i t (.acquire e) (t.addActive e 1) (.recheck e)
  | recheck {e} : t.epoch = some e → Next i t (.recheck e) t (.acquired e)
  | recheckFailed {e} : Next i t (.recheck e) t (.release e true)
  | start {e} : Next i t (.acquired e) t (.running e)
  | loopback {e} : Next i t (.acquired e) t (.release e false)
  | respond {e} : Next i t (.running e) t (.body e)
  | fail {e} : Next i t (.running e) t (.release e false)
  | closeBody {e} : Next i t (.body e) t (.release e false)
  | release {e again} : Next i t (.release e again) (t.addActive e (-1)) (.loadMarked e again)
  | releaseUsed {e again} : ((t.addActive e (-1)).epochs e).active ≠ 0 →
      Next i t (.release e again) (t.addActive e (-1)) (released again)
  | loadMarked {e again} : (t.epochs e).marked →
      Next i t (.loadMarked e again) t (.tryClose e again)
  | loadUnmarked {e again} : (t.epochs e).marked = false →
      Next i t (.loadMarked e again) t (released again)
  | tryClose {e again} : Next i t (.tryClose e again) (t.tryClose e) (released again)
  | swapCloseIdleNone : Next i t .swapCloseIdle t .done
  | swapCloseIdle {e} : t.epoch = some e →
      Next i t .swapCloseIdle { t with epoch := none } (.closeIdle e)
  | closeIdle {e} : Next i t (.closeIdle e) t (.storeMarked e)
  | swapRebuild : Next i t .swapReset { t with epoch := none } (.lock (.reset t.epoch))
  | swapReset : Next i t .swapReset { t with epoch := none } (retireEpoch t.epoch)
  | storeMarked {e} : Next i t (.storeMarked e) (t.storeMarked e) (.loadActive e)
  | loadActive {e} : (t.epochs e).active = 0 → Next i t (.loadActive e) t (.tryClose e false)
  | loadActiveUsed {e} : (t.epochs e).active ≠ 0 → Next i t (.loadActive e) t .done
  | done : Next i t .done t .done

lemma next_spec (i : ℕ) (ok : Bool) (t : ManagedTransport) (call : Call) :
    Next i t call (next i ok t call).1 (next i ok t call).2 := by
  fun_cases next i ok t call
  all_goals first
    | exact .swapReset
    | exact .loadUnmarked (Bool.of_not_eq_true ‹_›)
    | (constructor <;> assumption)

section
variable {t t' : ManagedTransport} {i j : ℕ} {call call' other : Call} {e : ℕ}
variable (e' : ℕ) (f : Epoch → Epoch)

lemma ManagedTransport.epochs_modify :
    (t.modify e' f).epochs e = if e = e' then f (t.epochs e) else t.epochs e := by
  by_cases h : e = e'
  · subst h
    simp [modify]
  · simp [modify, h]

lemma ManagedTransport.epoch_modify : (t.modify e' f).epoch = t.epoch := rfl

lemma ManagedTransport.created_modify : (t.modify e' f).created = t.created := rfl

lemma ManagedTransport.rebuildAccess_modify : (t.modify e' f).rebuildAccess = t.rebuildAccess := rfl

attribute [local grind] Call.uses Call.holds Call.counts Call.retires Call.settles Call.closing
  Call.locks released addActive storeMarked
  tryClose storeNew ManagedTransport.Replaced Call.cares

attribute [local grind =] epochs_modify epoch_modify
  created_modify rebuildAccess_modify retireEpoch.eq_def
  Rebuild.after.eq_def Rebuild.oldEpoch.eq_def

namespace Next
section
variable (h : Next i t call t' call')
include h

lemma active : ((t'.epochs e).active + (call.counts e).toNat : ℤ) =
    (t.epochs e).active + (call'.counts e).toNat := by
  cases h <;> grind

lemma replaced (he : t.Replaced e) : t'.Replaced e := by
  cases h <;> grind

lemma marked (he : (t.epochs e).marked) : (t'.epochs e).marked := by
  cases h <;> grind

lemma of_marked (he : (t'.epochs e).marked) : (t.epochs e).marked ∨ call.retires e := by
  cases h <;> grind

lemma of_holds (he : call'.holds e) : call.holds e ∨ t.epoch = some e := by
  cases h <;> grind

lemma of_closing (he : call'.closing e) : (call = .loadActive e ∧ (t.epochs e).active = 0) ∨
    ∃ again, call = .loadMarked e again ∧ (t.epochs e).marked := by
  cases h with
  | @loadMarked e' again hmarked =>
    obtain rfl : e' = e := by simpa [Call.closing] using he
    exact .inr ⟨again, rfl, hmarked⟩
  | _ => grind

lemma of_closeOnce (he : (t'.epochs e).closeOnce) : (t.epochs e).closeOnce ∨ call.closing e := by
  cases h <;> grind

lemma closeOnce (he : (t.epochs e).closeOnce) : (t'.epochs e).closeOnce := by
  cases h <;> grind

lemma closes (he : (t.epochs e).closes = (t.epochs e).closeOnce.toNat) :
    (t'.epochs e).closes = (t'.epochs e).closeOnce.toNat := by
  cases h <;> grind

lemma created : t.created ≤ t'.created := by
  cases h <;> grind

lemma epoch :
    t'.epoch = t.epoch ∨ t'.epoch = none ∨ t'.epoch = some t.created ∧ t.created < t'.created := by
  cases h <;> grind

lemma of_retires (he : call'.retires e) : call.retires e ∨ t.epoch = some e ∧ t'.epoch = none := by
  cases h <;> grind

lemma rebuildAccess (hcall : call.locks → t.rebuildAccess = some i) (hj : j ≠ i)
    (hlock : t.rebuildAccess = some j) : t'.rebuildAccess = some j := by
  cases h <;> grind

lemma locks (hcall : call.locks → t.rebuildAccess = some i)
    (he : call'.locks) : t'.rebuildAccess = some i := by
  cases h <;> grind

lemma epoch_none (hnone : t.epoch = none) (hcall : call.locks = false) : t'.epoch = none := by
  cases h <;> grind

lemma build_empty {rebuild : Rebuild} (he : call' = .build rebuild) : t'.epoch = none := by
  cases h <;> grind

lemma loadActive_marked (he : call' = .loadActive e) : (t'.epochs e).marked := by
  cases h <;> grind

lemma of_replaced (hcall : Local t i call) (he : t'.Replaced e) :
    t.Replaced e ∨ call'.retires e := by
  have hemp := hcall.empty
  cases h <;> grind

lemma cares (hcall : Local t i call) (he : call.cares t e) :
    (t'.epochs e).closeOnce ∨ call'.cares t' e ∨
    (t'.epochs e).marked ∧ (t'.epochs e).active ≠ 0 := by
  have hmarked := hcall.marked
  cases h <;> grind

lemma other_cares (he : other.cares t e) : other.cares t' e :=
  he.imp_right fun hoth => ⟨h.marked hoth.1, hoth.2⟩

lemma bound (hbd : ∀ e, t.epoch = some e → e < t.created)
    (he : t'.epoch = some e) : e < t'.created := by
  rcases h.epoch with hsame | hnone | ⟨hnew, hlt⟩
  · exact Nat.lt_of_lt_of_le (hbd e (hsame ▸ he)) h.created
  · simp [hnone] at he
  · obtain rfl : t.created = e := by simpa [hnew] using he
    exact hlt

lemma local_self (hbd : ∀ e, t.epoch = some e → e < t.created)
    (hcall : Local t i call) : Local t' i call' where
  replaced e he := by
    rcases h.of_retires he with he | ⟨he, hnone⟩
    · exact h.replaced (hcall.replaced e he)
    · exact ⟨Nat.lt_of_lt_of_le (hbd e he) h.created, by simp [hnone]⟩
  marked e he := h.loadActive_marked he
  locked he := h.locks hcall.locked he
  empty rebuild he := h.build_empty he

lemma local_other (hj : j ≠ i) (hcall : Local t i call)
    (hoth : Local t j other) : Local t' j other where
  replaced e he := h.replaced (hoth.replaced e he)
  marked e he := h.marked (hoth.marked e he)
  locked he := h.rebuildAccess hcall.locked hj (hoth.locked he)
  empty rebuild he := by
    refine h.epoch_none (hoth.empty rebuild he) (Bool.of_not_eq_true fun hlocks => hj ?_)
    -- Both calls would have the lock.
    have hlocked := hoth.locked (by rw [he]; rfl)
    exact Option.some.inj (hlocked.symm.trans (hcall.locked hlocks))

end

end Next

end

/-! ### The invariant -/

def Abandoned (s : State) (e : ℕ) : Prop :=
  s.shared.Replaced e ∧ ∀ call ∈ s.procs, call.holds e = false

structure Inv (s : State) : Prop where
  counted : ∀ e, (s.shared.epochs e).active = s.procs.countP (Call.counts e)
  calls : ∀ i call, s.procs[i]? = some call → Local s.shared i call
  bound : ∀ e, s.shared.epoch = some e → e < s.shared.created
  marked : ∀ e, (s.shared.epochs e).marked → s.shared.Replaced e
  closes : ∀ e, (s.shared.epochs e).closes = (s.shared.epochs e).closeOnce.toNat
  closed : ∀ e, (s.shared.epochs e).closeOnce → Abandoned s e
  closing : ∀ e, ∀ call ∈ s.procs, call.closing e → Abandoned s e
  /-- A replaced epoch is closed, or somebody is going to close it. -/
  pending : ∀ e, s.shared.Replaced e →
    (s.shared.epochs e).closeOnce ∨ ∃ call ∈ s.procs, call.cares s.shared e

variable {s : State} {i e : ℕ} {ok : Bool} {call : Call}

lemma inv_start : Inv (.start cheapRebuild) where
  counted e := rfl
  calls i call h := by simp [State.start] at h
  bound e h := by
    obtain rfl : 0 = e := by simpa [State.start] using h
    exact Nat.zero_lt_one
  marked e h := by simp [State.start] at h
  closes e := rfl
  closed e h := by simp [State.start] at h
  closing e call h := by simp [State.start] at h
  pending e h := by
    obtain ⟨hlt, hne⟩ := h
    obtain rfl : e = 0 := Nat.lt_one_iff.1 hlt
    exact absurd rfl hne

lemma Abandoned.set (h : Abandoned s e) (hi : s.procs[i]? = some call) :
    Abandoned (s.set i (next i ok s.shared call)) e := by
  refine ⟨(next_spec i ok s.shared call).replaced h.1,
    fun call' hcall' => Bool.of_not_eq_true fun hholds => ?_⟩
  rcases mem_of_set hcall' with hmem | rfl
  · simp [h.2 call' hmem] at hholds
  · rcases (next_spec i ok s.shared call).of_holds hholds with hholds | hepoch
    · simp [h.2 call (mem_of_getElem? hi)] at hholds
    · exact h.1.2 hepoch

lemma Inv.not_holds (h : Inv s) (hactive : (s.shared.epochs e).active = 0) :
    ∀ call ∈ s.procs, call.holds e = false := by
  intro call hcall
  have hcnt : s.procs.countP (Call.counts e) = 0 := by
    have := h.counted e
    omega
  have hnot := countP_eq_zero.1 hcnt call hcall
  cases call <;> simp_all [Call.holds, Call.counts]

lemma Inv.abandoned (h : Inv s) (hi : s.procs[i]? = some call) (hcare : careful s (.move i ok))
    (hclosing : (next i ok s.shared call).2.closing e) : Abandoned s e := by
  obtain ⟨rfl, hactive⟩ | ⟨again, rfl, hmarked⟩ :=
    (next_spec i ok s.shared call).of_closing hclosing
  · exact ⟨(h.calls i _ hi).replaced e (by simp [Call.retires]), h.not_holds hactive⟩
  · refine ⟨h.marked e hmarked, fun call hcall => ?_⟩
    simp only [careful, hi, hmarked, Bool.not_true, Bool.false_or, all_eq_true] at hcare
    simpa using hcare call hcall

lemma Inv.pending_set (h : Inv s) (hi : s.procs[i]? = some call)
    (hcounted : ((next i ok s.shared call).1.epochs e).active =
      (s.set i (next i ok s.shared call)).procs.countP (Call.counts e))
    (hreplaced : (next i ok s.shared call).1.Replaced e) :
    ((next i ok s.shared call).1.epochs e).closeOnce ∨
    ∃ call' ∈ (s.set i (next i ok s.shared call)).procs,
    call'.cares (next i ok s.shared call).1 e := by
  have hlocal := h.calls i call hi
  have hnext := next_spec i ok s.shared call
  have hself := @Processes.mem_set_self _ _ _ _ _ (next i ok s.shared call) hi
  rcases hnext.of_replaced hlocal hreplaced with hreplaced | hretires
  · rcases h.pending e hreplaced with hcl | ⟨call', hcall', hcares⟩
    · exact .inl (hnext.closeOnce hcl)
    · rcases mem_set_of_mem hi hcall' with rfl | hcall'
      · rcases hnext.cares hlocal hcares with hcl | hcares | ⟨hmarked, hactive⟩
        · exact .inl hcl
        · exact .inr ⟨_, hself, hcares⟩
        · -- Somebody else is counted and will find the mark.
          have hpos : 0 < (s.set i (next i ok s.shared call')).procs.countP (Call.counts e) := by
            omega
          obtain ⟨user, huser, hcounts⟩ := countP_pos_iff.1 hpos
          exact .inr ⟨user, huser, .inr ⟨hmarked, .inl hcounts⟩⟩
      · exact .inr ⟨call', hcall', hnext.other_cares hcares⟩
  · exact .inr ⟨_, hself, .inl hretires⟩

lemma inv_move (h : Inv s) (hi : s.procs[i]? = some call)
    (hcare : careful s (.move i ok)) : Inv (s.set i (next i ok s.shared call)) := by
  have hlocal := h.calls i call hi
  have hnext := next_spec i ok s.shared call
  have hcounted : ∀ e, ((next i ok s.shared call).1.epochs e).active =
      (s.set i (next i ok s.shared call)).procs.countP (Call.counts e) := by
    intro e
    have hactive := @Next.active _ _ _ _ _ e hnext
    have hcnt := @Processes.countP_set _ _ s i call (next i ok s.shared call) (Call.counts e) hi
    have := h.counted e
    omega
  refine ⟨hcounted, ?_, fun e => hnext.bound h.bound, fun e hmarked => ?_, fun e => ?_,
    fun e hcl => ?_, fun e call' hcall' hclosing => ?_, fun e => h.pending_set hi (hcounted e)⟩
  · exact forall_set h.calls (hnext.local_self h.bound hlocal)
      fun j call' hj => hnext.local_other hj hlocal
  · rcases hnext.of_marked hmarked with hmarked | hretires
    · exact hnext.replaced (h.marked e hmarked)
    · exact hnext.replaced (hlocal.replaced e hretires)
  · exact hnext.closes (h.closes e)
  · rcases hnext.of_closeOnce hcl with hcl | hclosing
    · exact (h.closed e hcl).set hi
    · exact (h.closing e call (mem_of_getElem? hi) hclosing).set hi
  · rcases mem_of_set hcall' with hmem | rfl
    · exact (h.closing e call' hmem hclosing).set hi
    · exact (h.abandoned hi hcare hclosing).set hi

lemma start_spec (kind : Kind) (e : ℕ) :
    kind.start.counts e = false ∧ kind.start.holds e = false ∧ kind.start.closing e = false := by
  cases kind <;> exact ⟨rfl, rfl, rfl⟩

lemma local_start (t : ManagedTransport) (i : ℕ) (kind : Kind) : Local t i kind.start := by
  cases kind <;> constructor <;> simp [Kind.start, Call.retires, Call.locks]

lemma Abandoned.append (h : Abandoned s e) (kind : Kind) :
    Abandoned (s.step protocol (.call kind)) e := by
  refine ⟨h.1, forall_mem_append.2 ⟨h.2, ?_⟩⟩
  exact forall_mem_singleton.2 (start_spec kind e).2.1

lemma inv_call (h : Inv s) (kind : Kind) : Inv (s.step protocol (.call kind)) where
  counted e := by
    rw [show s.step protocol (.call kind) = ⟨s.shared, s.procs ++ [kind.start]⟩ from rfl]
    simp [h.counted e, (start_spec kind e).1]
  calls := forall_append h.calls fun j => local_start s.shared j kind
  bound := h.bound
  marked := h.marked
  closes := h.closes
  closed e hcl := (h.closed e hcl).append kind
  closing e call hcall hclosing := by
    rcases mem_append.1 hcall with hcall | hcall
    · exact (h.closing e call hcall hclosing).append kind
    · rw [mem_singleton.1 hcall] at hclosing
      exact absurd ((start_spec kind e).2.2.symm.trans hclosing) Bool.false_ne_true
  pending e hreplaced := (h.pending e hreplaced).imp_right fun ⟨call, hcall, hcares⟩ =>
      ⟨call, mem_append_left _ hcall, hcares⟩

lemma inv_step (h : Inv s) (action : Action) (hcare : careful s action) :
    Inv (s.step protocol action) := by
  cases action with
  | call kind => exact inv_call h kind
  | move i ok =>
    cases hi : s.procs[i]? with
    | none => exact (step_move_none hi).symm ▸ h
    | some call => exact (step_move hi).symm ▸ inv_move h hi hcare

lemma Call.holds_of_uses (h : call.uses e) : call.holds e := by
  cases call <;> simp_all [Call.uses, Call.holds]

lemma Call.involves_of_cares (h : call.cares s.shared e) : call.involves e := by
  rcases h with h | ⟨-, h | h⟩ <;> simp [Call.involves, h]

lemma safe_of_inv (h : Inv s) : Safe s where
  once e := by
    rw [h.closes e]
    exact Bool.toNat_le _
  unused e call hcall huses := by
    rw [h.closes e, Bool.toNat_eq_zero]
    refine Bool.of_not_eq_true fun hcl => ?_
    have hholds := (h.closed e hcl).2 call hcall
    simp [Call.holds_of_uses huses] at hholds
  finished e hreplaced hended := by
    rw [h.closes e, Bool.toNat_eq_one]
    rcases h.pending e hreplaced with hcl | ⟨call, hcall, hcares⟩
    · exact hcl
    · have hinvolves := hended call hcall
      simp [Call.involves_of_cares hcares] at hinvolves

def resetBetween : List Action :=
  [.call .roundTrip, .move 0 true, .move 0 true, .move 0 true, .move 0 true, .move 0 true,
    .call .roundTrip, .move 1 true,
    .call .reset, .move 2 true, .move 2 true, .move 2 true, .move 2 true, .move 2 true,
    .move 2 true, .move 2 true,
    .move 1 true, .move 1 true, .move 1 true, .move 1 true, .move 1 true, .move 1 true,
    .move 0 true, .move 0 true, .move 0 true, .move 0 true]

/-- The epoch is acquired and replaced before the release finds the mark. -/
def acquiredAgain : List Action :=
  [.call .roundTrip, .move 0 true, .move 0 true, .move 0 true, .move 0 false, .move 0 true,
    .call .roundTrip, .move 1 true, .move 1 true, .move 1 true, .move 1 true,
    .call .closeIdleConnections, .move 2 true, .move 2 true, .move 2 true, .move 2 true,
    .move 0 true, .move 0 true]

/-- If no release finds the mark of an epoch acquired again, epochs are closed once, not in use, and
none is forgotten. -/
theorem epochs_safe_of_careful (cheapRebuild : Bool) {s : State}
    (h : Run (Processes.step protocol) (fun s action => careful s action = true)
      (State.start cheapRebuild) s) : Safe s :=
  safe_of_inv (h.invariant (inv_start cheapRebuild) fun _ action hs => inv_step hs action)

theorem epochs_safe_of_careful_resetBetween :
    ((State.after true resetBetween).shared.epochs 0).closes = 1 ∧
      Safe (State.after true resetBetween) :=
  ⟨by decide +kernel, epochs_safe_of_careful true (Run.start.foldl (by decide +kernel))⟩

/-- The transport of a running request is closed. -/
theorem not_safe_acquiredAgain : ((State.after true acquiredAgain).shared.epochs 0).closes = 1 ∧
      (State.after true acquiredAgain).procs[1]? = some (.running 0) ∧
      ¬Safe (State.after true acquiredAgain) := by
  have hcloses : ((State.after true acquiredAgain).shared.epochs 0).closes = 1 := by
    decide +kernel
  have hrun : (State.after true acquiredAgain).procs[1]? = some (.running 0) := rfl
  refine ⟨hcloses, hrun, fun hsafe => ?_⟩
  have hzero := hsafe.unused 0 (.running 0) (mem_of_getElem? hrun) rfl
  omega

end SingBox.HTTPClient.Managed
