import SingBox.Lib.Processes

/-!
# The selector outbound

`SelectOutbound` swaps the selection, writes it and interrupts connections, without a lock across
these steps.
-/

namespace SingBox.Selector
open Processes List

structure Config (τ ο : Type) where
  outbounds : τ → Option ο
  hasCacheFile : Bool
  interruptExternalConnections : Bool

structure Conn (ο : Type) where
  outbound : ο
  isExternal : Bool
deriving DecidableEq

structure Shared (τ ο : Type) where
  selected : ο
  stored : Option τ := none
  connections : List (Conn ο) := []
  changed : Bool := false
  failed : Bool := false

inductive Call (τ : Type) where
  | selectOutbound (tag : τ)
  | dial (isExternal : Bool)
  | close (k : ℕ)

inductive Proc (τ ο : Type) where
  | swapping (tag : τ)
  | storing (tag : τ)
  | interrupting
  | loading (isExternal : Bool)
  | dialing (conn : Conn ο)
  | registering (conn : Conn ο)
  | closing (k : ℕ)
  | returned
deriving DecidableEq

variable {τ ο : Type} [DecidableEq ο] (cfg : Config τ ο)

/-- Opened through the selected outbound, or not to be interrupted. -/
def Config.isCurrent (t : Shared τ ο) (conn : Conn ο) : Bool :=
  conn.outbound = t.selected || conn.isExternal && !cfg.interruptExternalConnections

def Config.interrupt (connections : List (Conn ο)) : List (Conn ο) :=
  connections.filter fun conn => conn.isExternal && !cfg.interruptExternalConnections

/-- `ok` is the outcome of writing the cache file or of dialing. -/
def next (ok : Bool) (t : Shared τ ο) : Proc τ ο → Shared τ ο × Proc τ ο
  | .swapping tag =>
    match cfg.outbounds tag with
    | none => (t, .returned)
    | some detour =>
      if t.selected = detour then (t, .returned)
      else ({ t with selected := detour, changed := true }, .storing tag)
  | .storing tag =>
    if cfg.hasCacheFile then
      (if ok then { t with stored := some tag } else { t with failed := true }, .interrupting)
    else (t, .interrupting)
  | .interrupting => ({ t with connections := cfg.interrupt t.connections }, .returned)
  | .loading isExternal => (t, .dialing ⟨t.selected, isExternal⟩)
  | .dialing conn => (t, if ok then .registering conn else .returned)
  | .registering conn => ({ t with connections := t.connections ++ [conn] }, .returned)
  | .closing k => ({ t with connections := t.connections.eraseIdx k }, .returned)
  | .returned => (t, .returned)

def protocol : Protocol (Shared τ ο) (Proc τ ο) (Call τ) Bool where
  start
    | .selectOutbound tag => .swapping tag
    | .dial isExternal => .loading isExternal
    | .close k => .closing k
  next _ ok t proc := next cfg ok t proc

abbrev State (τ ο : Type) := Processes (Shared τ ο) (Proc τ ο)

abbrev Action (τ : Type) := Processes.Action (Call τ) Bool

def Config.IsStored (t : Shared τ ο) : Prop :=
  ∃ tag, t.stored = some tag ∧ cfg.outbounds tag = some t.selected

/-- In the end the file has the selection, and nothing is left open. -/
structure Safe (s : State τ ο) : Prop where
  stored : (∀ proc ∈ s.procs, proc = .returned) → cfg.hasCacheFile →
    s.shared.changed → s.shared.failed = false → cfg.IsStored s.shared
  current : (∀ proc ∈ s.procs, proc = .returned) →
    ∀ conn ∈ s.shared.connections, cfg.isCurrent s.shared conn

namespace Proc

def conn? : Proc τ ο → Option (Conn ο)
  | .dialing conn | .registering conn => some conn
  | _ => none

def interrupts : Proc τ ο → Bool
  | .storing _ | .interrupting => true
  | _ => false

end Proc

/-- The selection is written while current, if there is a cache file, and the group interrupted
while nobody dials another outbound. -/
def careful (s : State τ ο) : Action τ → Bool
  | .call _ => true
  | .move i _ =>
    match s.procs[i]? with
    | some (.storing tag) => !cfg.hasCacheFile || cfg.outbounds tag = some s.shared.selected
    | some .interrupting => s.procs.all fun proc => proc.conn?.all (cfg.isCurrent s.shared)
    | _ => true

variable {cfg} {s : State τ ο} {t' : Shared τ ο} {proc proc' : Proc τ ο} {i : ℕ}

structure Inv (cfg : Config τ ο) (s : State τ ο) : Prop where
  stored : cfg.hasCacheFile → s.shared.changed → s.shared.failed = false →
    cfg.IsStored s.shared ∨
      ∃ tag, .storing tag ∈ s.procs ∧ cfg.outbounds tag = some s.shared.selected
  /-- Those of other outbounds are only there before an interruption. -/
  current : (∃ proc ∈ s.procs, proc.interrupts) ∨
    (∀ conn ∈ s.shared.connections, cfg.isCurrent s.shared conn) ∧
      ∀ proc ∈ s.procs, ∀ conn ∈ proc.conn?, cfg.isCurrent s.shared conn

lemma Inv.safe (h : Inv cfg s) : Safe cfg s where
  stored hret hfile hchg hfailed := by
    rcases h.stored hfile hchg hfailed with hstored | ⟨tag, htag, -⟩
    · exact hstored
    · cases hret _ htag
  current hret := by
    rcases h.current with ⟨proc, hproc, hintr⟩ | ⟨hconns, -⟩
    · cases hret proc hproc ▸ hintr
    · exact hconns

lemma Inv.newCall (h : Inv cfg s) (call : Call τ) :
    Inv cfg ⟨s.shared, s.procs ++ [(protocol cfg).start call]⟩ where
  stored hfile hchg hfailed := (h.stored hfile hchg hfailed).imp_right
    fun ⟨tag, htag, hsel⟩ => ⟨tag, mem_append_left _ htag, hsel⟩
  current := by
    rcases h.current with ⟨proc, hproc, hintr⟩ | ⟨hconns, hprocs⟩
    · exact .inl ⟨proc, mem_append_left _ hproc, hintr⟩
    · refine .inr ⟨hconns, fun proc hproc conn hconn => ?_⟩
      rcases mem_append.1 hproc with hproc | hproc
      · exact hprocs proc hproc conn hconn
      · rw [mem_singleton.1 hproc] at hconn
        cases call <;> cases hconn

lemma Inv.quiet (h : Inv cfg s) (hi : s.procs[i]? = some proc)
    (hintr : proc.interrupts = false) {connections : List (Conn ο)}
    (hconns : ∀ conn ∈ connections, conn ∈ s.shared.connections ∨ conn ∈ proc.conn?)
    (hproc : ∀ conn ∈ proc'.conn?, conn ∈ proc.conn? ∨ cfg.isCurrent s.shared conn) :
    Inv cfg (s.set i ({ s.shared with connections }, proc')) where
  stored hfile hchg hfailed := by
    refine (h.stored hfile hchg hfailed).imp_right fun ⟨tag, htag, hsel⟩ => ?_
    rcases mem_set_of_mem hi htag with rfl | hmem
    · cases hintr
    · exact ⟨tag, hmem, hsel⟩
  current := by
    rcases h.current with ⟨other, hoth, hoth'⟩ | ⟨hcur, hprocs⟩
    · rcases mem_set_of_mem hi hoth with rfl | hmem
      · cases hintr.symm.trans hoth'
      · exact .inl ⟨other, hmem, hoth'⟩
    · have hold := hprocs proc (mem_of_getElem? hi)
      refine .inr ⟨fun conn hconn => (hconns conn hconn).elim (hcur conn) (hold conn), ?_⟩
      intro other hoth conn hconn
      rcases mem_of_set hoth with hoth | rfl
      · exact hprocs other hoth conn hconn
      · exact (hproc conn hconn).elim (hold conn) id

lemma Inv.swap {tag : τ} {detour : ο} (hi : s.procs[i]? = some proc)
    (hdetour : cfg.outbounds tag = some detour) :
    Inv cfg (s.set i ({ s.shared with selected := detour, changed := true }, .storing tag)) where
  stored _ _ _ := .inr ⟨tag, mem_set_self hi, hdetour⟩
  current := .inl ⟨_, mem_set_self hi, rfl⟩

lemma Inv.store {tag : τ} (hi : s.procs[i]? = some (.storing tag))
    (hsel : cfg.hasCacheFile → cfg.outbounds tag = some s.shared.selected) (ok : Bool) :
    Inv cfg (s.set i (next cfg ok s.shared (.storing tag))) := by
  dsimp only [next]
  split
  · next hfile =>
    refine ⟨fun _ _ hfailed => .inl ?_, .inl ⟨_, mem_set_self hi, rfl⟩⟩
    cases ok with
    | true => exact ⟨tag, rfl, hsel hfile⟩
    | false => cases hfailed
  · next hfile => exact ⟨fun htrue => absurd htrue hfile, .inl ⟨_, mem_set_self hi, rfl⟩⟩

lemma Inv.interrupt (h : Inv cfg s) (hi : s.procs[i]? = some .interrupting)
    (hdialing : ∀ proc ∈ s.procs, ∀ conn ∈ proc.conn?, cfg.isCurrent s.shared conn) :
    Inv cfg (s.set i ({ s.shared with connections := cfg.interrupt s.shared.connections },
      .returned)) where
  stored hfile hchg hfailed := by
    refine (h.stored hfile hchg hfailed).imp_right fun ⟨tag, htag, hsel⟩ => ?_
    rcases mem_set_of_mem hi htag with heq | hmem
    · cases heq
    · exact ⟨tag, hmem, hsel⟩
  current := by
    refine .inr ⟨fun conn hconn => ?_, fun proc hproc conn hconn => ?_⟩
    · exact Bool.or_eq_true_iff.2 (.inr (mem_filter.1 hconn).2)
    · rcases mem_of_set hproc with hproc | rfl
      · exact hdialing proc hproc conn hconn
      · cases hconn

lemma Inv.move (h : Inv cfg s) (hi : s.procs[i]? = some proc) {ok : Bool}
    (hcare : careful cfg s (.move i ok)) :
    Inv cfg (s.set i (next cfg ok s.shared proc)) := by
  simp only [careful, hi] at hcare
  -- A step that keeps the group keeps the invariant if it keeps the connection it dials.
  have hkeep {proc'} (hintr) (hproc) : Inv cfg (s.set i (s.shared, proc')) :=
    h.quiet hi hintr (fun conn hconn => .inl hconn) hproc
  cases proc with
  | swapping tag =>
    dsimp only [next]
    cases hdetour : cfg.outbounds tag with
    | none => exact hkeep rfl nofun
    | some detour =>
      dsimp only
      split
      · exact hkeep rfl nofun
      · exact .swap hi hdetour
  | storing tag =>
    refine .store hi (fun hfile => ?_) ok
    rw [hfile] at hcare
    exact of_decide_eq_true hcare
  | interrupting =>
    refine h.interrupt hi fun proc hproc conn hconn => ?_
    have hall := all_eq_true.1 hcare proc hproc
    rw [Option.mem_def.1 hconn] at hall
    exact hall
  | loading isExternal =>
    refine hkeep rfl fun conn hconn => .inr ?_
    obtain rfl := Option.some.inj hconn
    simp [Config.isCurrent]
  | dialing conn =>
    cases ok with
    | true => exact hkeep rfl fun conn' hconn => .inl hconn
    | false => exact hkeep rfl nofun
  | registering conn =>
    refine h.quiet hi rfl (fun conn' hconn => ?_) nofun
    refine (mem_append.1 hconn).imp_right fun hconn => ?_
    exact congrArg some (mem_singleton.1 hconn).symm
  | closing k =>
    exact h.quiet hi rfl (fun conn hconn => .inl (mem_of_mem_eraseIdx hconn)) nofun
  | returned => exact hkeep rfl nofun

/-- The selector is safe if selections are written in turn and nobody dials another during an
interruption. -/
theorem safe_of_careful_selections {selected : ο} {stored : Option τ}
    (h : Run (step (protocol cfg)) (careful cfg · · = true)
      ⟨{ selected, stored }, []⟩ s) : Safe cfg s := by
  refine Inv.safe (invariant_of_run h ⟨nofun, .inr ⟨nofun, nofun⟩⟩ ?_ ?_)
  · exact fun s call hs => hs.newCall call
  · exact fun s i ok proc hs hi hcare => hs.move hi hcare

def twoOutbounds : Config ℕ ℕ :=
  ⟨fun tag => if tag < 2 then some tag else none, true, false⟩

theorem safe_twoOutbounds :
    let actions : List (Action ℕ) :=
      [.call (.dial false), .move 0 true, .move 0 true, .move 0 true, .call (.selectOutbound 1),
        .move 1 true, .move 1 true, .move 1 true, .call (.dial false), .move 2 true, .move 2 true,
        .move 2 true]
    let s := actions.foldl (step (protocol twoOutbounds)) ⟨{ selected := 0 }, []⟩
    Safe twoOutbounds s ∧ s.shared.stored = some 1 ∧ s.shared.connections = [⟨1, false⟩] := by
  intro actions s
  exact ⟨safe_of_careful_selections (Run.start.foldl (by decide +kernel)), rfl, rfl⟩

/-- Calls write in another order; a connection is entered too late. -/
theorem not_safe_twoOutbounds :
    ¬Safe twoOutbounds ([.call (.selectOutbound 1), .move 0 true, .call (.selectOutbound 0),
      .move 1 true, .move 1 true, .move 1 true, .move 0 true, .move 0 true].foldl
        (step (protocol twoOutbounds)) ⟨{ selected := 0 }, []⟩) ∧
    ¬Safe twoOutbounds ([.call (.dial false), .move 0 true, .call (.selectOutbound 1),
      .move 1 true, .move 1 true, .move 1 true, .move 0 true, .move 0 true].foldl
        (step (protocol twoOutbounds)) ⟨{ selected := 0 }, []⟩) := by
  constructor
  · intro h
    obtain ⟨tag, htag, hsel⟩ := h.stored (by decide +kernel) rfl rfl rfl
    obtain rfl := Option.some.inj htag
    cases hsel
  · intro h
    cases h.current (by decide +kernel) ⟨0, false⟩ (by decide +kernel)

end SingBox.Selector
