import SingBox.Lib.Run
import Mathlib.Data.Finset.Basic

/-!
# The shared connection

One connection, dialed by another goroutine while everyone waits. Steps are what is done under the
lock, and calls of the dialer and of `Close`. `Change` lists what a step can do; the invariant
`Good` and what becomes of connections after a `Reset` are derived from it.
-/

namespace SingBox.SharedPool
open Function List

/-! ### The pool -/

variable {C : Type} [DecidableEq C]

inductive Dialer (C : Type) where
  | unstarted
  | dialing
  /-- A context was cancelled. The connection is about to be closed. -/
  | abandoned (conn : C)
  | returned (result : Option C)
  /-- The connection was not installed and is about to be closed. -/
  | rejected (conn : C)
  | finishing
  | finished
deriving DecidableEq

/-- If a context was cancelled, the connection is closed: an error. -/
def Dialer.dialed (result : Option C) (cancelled : Bool) : Dialer C :=
  match result with
  | some conn => if cancelled then .abandoned conn else .returned (some conn)
  | none => .returned none

structure Connect (C : Type) where
  generation : ℕ := 0
  dialer : Dialer C := .unstarted
  err : Bool := false
  /-- The connection that was installed. The source does not keep it. -/
  installed : Option C := none

structure PoolState (C : Type) where
  all : Finset C := ∅
  shared : Option (C × ℕ) := none
  sharedClaimed : Bool := false
  connecting : Option ℕ := none

structure Success (C : Type) where
  goroutine : ℕ
  generation : ℕ
  conn : C
  ctx : ℕ
  created : Bool
deriving DecidableEq

inductive Agent (C : Type) where
  | rest
  | acquiring
  | waiting (generation connect : ℕ) (startDial : Bool)
  /-- About to close these connections, and then to try again or return. -/
  | closing (conns : Finset C) (retry : Bool)
deriving DecidableEq

inductive Closer where
  | goroutine (i : ℕ)
  | dialer (k : ℕ)
deriving DecidableEq

structure State (C : Type) where
  closed : Bool := false
  generation : ℕ := 0
  states : ℕ → PoolState C := fun _ => {}
  connects : ℕ → Connect C := fun _ => {}
  next : ℕ := 0
  agents : ℕ → Agent C := fun _ => .rest
  log : List (Success C) := []
  closeCalls : List (Closer × C) := []

namespace State
variable (s : State C) (i : ℕ)

def state : PoolState C := s.states s.generation

def become (agent : Agent C) : State C := { s with agents := update s.agents i agent }

def setState (state : PoolState C) : State C :=
  { s with states := update s.states s.generation state }

def setDialer (k : ℕ) (dialer : Dialer C) : State C :=
  { s with connects := update s.connects k { s.connects k with dialer } }

def call (closer : Closer) (conn : C) : State C :=
  { s with closeCalls := (closer, conn) :: s.closeCalls }

def removeConn (state : PoolState C) (conn : C) : PoolState C :=
  let all := state.all.erase conn
  match state.shared with
  | some (shared, _) =>
    if shared = conn then { state with all, shared := none, sharedClaimed := false }
    else { state with all }
  | none => { state with all }

def claim (conn : C) (ctx : ℕ) : State C := { s.setState { s.state with sharedClaimed := true } with
    log := ⟨i, s.generation, conn, ctx, !s.state.sharedClaimed⟩ :: s.log }

def startDial : State C := { s.setState { s.state with connecting := some s.next } with
    connects := update s.connects s.next { generation := s.generation, dialer := .dialing }
    next := s.next + 1 }

def acquireShared (isAlive : C → Bool) : State C := if s.closed then s.become i .rest
  else match s.state.shared with
    | some (conn, ctx) =>
      if isAlive conn then (s.claim i conn ctx).become i .rest
      else (s.setState (removeConn s.state conn)).become i (.closing {conn} true)
    | none => match s.state.connecting with
      | some k => s.become i (.waiting s.generation k false)
      | none => s.startDial.become i (.waiting s.generation s.next true)

def collectShared (generation k : ℕ) (startDial : Bool) (isAlive : C → Bool) : State C :=
  if (s.connects k).err then s.become i (if startDial then .rest else .acquiring)
  else if s.closed then s.become i .rest
  else if s.generation ≠ generation then s.become i .rest
  else match s.state.shared with
    | none => s.become i .acquiring
    | some (conn, ctx) =>
      if isAlive conn then (s.claim i conn ctx).become i .rest
      else (s.setState (removeConn s.state conn)).become i (.closing {conn} true)

def put (k : ℕ) (connect : Connect C) (state : PoolState C) : State C := { s with
    states := update s.states connect.generation state
    connects := update s.connects k connect }

def connectSingle (k : ℕ) (result : Option C) : State C :=
  let connect := s.connects k
  let state := { s.states connect.generation with connecting := none }
  match result with
  | none => s.put k { connect with err := true, dialer := .finishing } state
  | some conn =>
    if s.closed then s.put k { connect with err := true, dialer := .rejected conn } state
    else if s.generation ≠ connect.generation then
      s.put k { connect with err := true, dialer := .rejected conn } state
    else
      s.put k { connect with dialer := .finishing, installed := some conn }
        { state with shared := some (conn, k), all := insert conn state.all }

def release (conn : C) (reuse : Bool) (isAlive : C → Bool) : State C :=
  if s.closed then s.become i (.closing {conn} false)
  else if conn ∉ s.state.all then s.become i (.closing {conn} false)
  else if !reuse || !isAlive conn then
    (s.setState (removeConn s.state conn)).become i (.closing {conn} false)
  else s

def invalidate (conn : C) : State C := if s.closed then s.become i (.closing {conn} false)
  else if conn ∉ s.state.all then s
  else (s.setState (removeConn s.state conn)).become i (.closing {conn} false)

def renew : State C := { s with
    generation := s.generation + 1
    states := update s.states (s.generation + 1) {} }

def reset : State C := if s.closed then s else s.renew.become i (.closing s.state.all false)

def close : State C :=
  if s.closed then s else { s with closed := true }.become i (.closing s.state.all false)

end State

/-! ### The steps -/

inductive Action (C : Type) where
  | acquire (i : ℕ)
  | acquireShared (i : ℕ) (isAlive : C → Bool)
  | collectShared (i : ℕ) (isAlive : C → Bool)
  | cancelled (i : ℕ)
  | stateDone (i : ℕ)
  | dialed (k : ℕ) (result : Option C) (cancelled : Bool)
  | closeDialed (k : ℕ)
  | connectSingle (k : ℕ)
  | done (k : ℕ)
  | release (i : ℕ) (conn : C) (reuse : Bool) (isAlive : C → Bool)
  | invalidate (i : ℕ) (conn : C)
  | reset (i : ℕ)
  | close (i : ℕ)
  | closeConn (i : ℕ) (conn : C)
  | finish (i : ℕ)

def step (s : State C) : Action C → State C
  | .acquire i => match s.agents i with
    | .rest => s.become i .acquiring
    | _ => s
  | .acquireShared i isAlive => match s.agents i with
    | .acquiring => s.acquireShared i isAlive
    | _ => s
  | .collectShared i isAlive => match s.agents i with
    | .waiting generation k startDial => match (s.connects k).dialer with
      | .finished => s.collectShared i generation k startDial isAlive
      | _ => s
    | _ => s
  | .cancelled i => match s.agents i with
    | .waiting _ _ _ => s.become i .rest
    | _ => s
  | .stateDone i => match s.agents i with
    | .waiting _ _ _ => s.become i (if s.closed then .rest else .acquiring)
    | _ => s
  | .dialed k result cancelled => match (s.connects k).dialer with
    | .dialing => s.setDialer k (.dialed result cancelled)
    | _ => s
  | .closeDialed k => match (s.connects k).dialer with
    | .abandoned conn => (s.call (.dialer k) conn).setDialer k (.returned none)
    | .rejected conn => (s.call (.dialer k) conn).setDialer k .finishing
    | _ => s
  | .connectSingle k => match (s.connects k).dialer with
    | .returned result => s.connectSingle k result
    | _ => s
  | .done k => match (s.connects k).dialer with
    | .finishing => s.setDialer k .finished
    | _ => s
  | .release i conn reuse isAlive => match s.agents i with
    | .rest => s.release i conn reuse isAlive
    | _ => s
  | .invalidate i conn => match s.agents i with
    | .rest => s.invalidate i conn
    | _ => s
  | .reset i => match s.agents i with
    | .rest => s.reset i
    | _ => s
  | .close i => match s.agents i with
    | .rest => s.close i
    | _ => s
  | .closeConn i conn => match s.agents i with
    | .closing conns retry =>
      if conn ∈ conns then
        (s.call (.goroutine i) conn).become i (.closing (conns.erase conn) retry)
      else s
    | _ => s
  | .finish i => match s.agents i with
    | .closing conns retry =>
      if conns = ∅ then s.become i (if retry then .acquiring else .rest) else s
    | _ => s

def Agent.Observes (generation : ℕ) (agent : Agent C) : Prop :=
  agent = .acquiring ∨ ∃ k startDial, agent = .waiting generation k startDial

inductive Change (s : State C) : State C → Prop
  | nothing : Change s s
  | startDial : s.state.shared = none → s.state.connecting = none → Change s s.startDial
  | claim {i ctx : ℕ} {conn : C} : s.closed = false → s.state.shared = some (conn, ctx) →
      (s.agents i).Observes s.generation → Change s (s.claim i conn ctx)
  | removeConn {conn : C} : Change s (s.setState (State.removeConn s.state conn))
  | returned {k : ℕ} {result : Option C} : (s.connects k).dialer = .dialing →
      Change s (s.setDialer k (.returned result))
  | abandoned {k : ℕ} {conn : C} : (s.connects k).dialer = .dialing →
      Change s (s.setDialer k (.abandoned conn))
  | closeAbandoned {k : ℕ} {conn : C} : (s.connects k).dialer = .abandoned conn →
      Change s ((s.call (.dialer k) conn).setDialer k (.returned none))
  | closeRejected {k : ℕ} {conn : C} : (s.connects k).dialer = .rejected conn →
      Change s ((s.call (.dialer k) conn).setDialer k .finishing)
  | connectSingle {k : ℕ} {result : Option C} : (s.connects k).dialer = .returned result →
      Change s (s.connectSingle k result)
  | done {k : ℕ} : (s.connects k).dialer = .finishing → Change s (s.setDialer k .finished)
  | renew : Change s s.renew
  | close : Change s { s with closed := true }
  | closeConn {i : ℕ} {conn : C} : Change s (s.call (.goroutine i) conn)

open Change
variable {s : State C} {i : ℕ}

def Steps (s t : State C) : Prop := ∃ u, Change s u ∧ ∃ agents, t = { u with agents }

variable {t : State C}

lemma Change.steps (h : Change s t) : Steps s t := ⟨t, h, t.agents, rfl⟩

lemma Change.become (h : Change s t) (agent : Agent C) : Steps s (t.become i agent) :=
  ⟨t, h, _, rfl⟩

lemma steps_acquireShared (hag : s.agents i = .acquiring) (isAlive : C → Bool) :
    Steps s (s.acquireShared i isAlive) := by
  unfold State.acquireShared
  split_ifs with hcl
  · exact nothing.become _
  · split
    · rename_i conn ctx hsh
      split_ifs
      · exact (claim (by simpa using hcl) hsh (.inl hag)).become _
      · exact removeConn.become _
    · rename_i hsh
      split
      · exact nothing.become _
      · rename_i hconn
        exact (startDial hsh hconn).become _

variable {generation k k' : ℕ} {conn : C} {e : Success C}

lemma steps_collectShared {startDial : Bool}
    (hag : s.agents i = .waiting generation k startDial) (isAlive : C → Bool) :
    Steps s (s.collectShared i generation k startDial isAlive) := by
  unfold State.collectShared
  split_ifs with herr hst hcl hgen
  · exact nothing.become _
  · exact nothing.become _
  · exact nothing.become _
  · exact nothing.become _
  · rw [not_not] at hgen
    split
    · exact nothing.become _
    · rename_i conn ctx hsh
      split_ifs
      · refine (claim (by simpa using hcl) hsh (.inr ⟨k, startDial, ?_⟩)).become _
        rw [hag, hgen]
      · exact removeConn.become _

lemma step_steps (s : State C) (action : Action C) : Steps s (step s action) := by
  cases action with
  | acquire i | cancelled i | stateDone i =>
    rw [step]
    split
    · exact nothing.become _
    · exact nothing.steps
  | acquireShared i isAlive =>
    rw [step]
    split
    · exact steps_acquireShared ‹_› isAlive
    · exact nothing.steps
  | collectShared i isAlive =>
    rw [step]
    split
    · split
      · exact steps_collectShared ‹_› isAlive
      · exact nothing.steps
    · exact nothing.steps
  | dialed k result cancelled =>
    rw [step]
    split
    · unfold Dialer.dialed
      split
      · split_ifs
        · exact (abandoned ‹_›).steps
        · exact (returned ‹_›).steps
      · exact (returned ‹_›).steps
    · exact nothing.steps
  | closeDialed k =>
    rw [step]
    split
    · exact (closeAbandoned ‹_›).steps
    · exact (closeRejected ‹_›).steps
    · exact nothing.steps
  | connectSingle k =>
    rw [step]
    split
    · exact (connectSingle ‹_›).steps
    · exact nothing.steps
  | done k =>
    rw [step]
    split
    · exact (done ‹_›).steps
    · exact nothing.steps
  | release i conn reuse isAlive =>
    rw [step]
    split
    · unfold State.release
      split_ifs
      · exact nothing.become _
      · exact removeConn.become _
      · exact nothing.steps
      · exact nothing.become _
    · exact nothing.steps
  | invalidate i conn =>
    rw [step]
    split
    · unfold State.invalidate
      split_ifs
      · exact nothing.become _
      · exact removeConn.become _
      · exact nothing.steps
    · exact nothing.steps
  | reset i =>
    rw [step]
    split
    · unfold State.reset
      split_ifs
      · exact nothing.steps
      · exact renew.become _
    · exact nothing.steps
  | close i =>
    rw [step]
    split
    · unfold State.close
      split_ifs
      · exact nothing.steps
      · exact close.become _
    · exact nothing.steps
  | closeConn i conn =>
    rw [step]
    split
    · split_ifs
      · exact closeConn.become _
      · exact nothing.steps
    · exact nothing.steps
  | finish i =>
    rw [step]
    split
    · split_ifs
      · exact nothing.become _
      · exact nothing.become _
      · exact nothing.steps
    · exact nothing.steps

/-- What does not depend on goroutines that do not dial is kept if every change keeps it. -/
lemma step_of_change {P : State C → Prop} (hagents : ∀ t agents, P t → P { t with agents })
    (h : ∀ t, Change s t → P t) (action : Action C) : P (step s action) := by
  obtain ⟨t, hchg, agents, hstep⟩ := step_steps s action
  rw [hstep]
  exact hagents t agents (h t hchg)

/-! ### The invariant -/

def Dialer.Pending : Dialer C → Prop
  | .dialing | .abandoned _ | .returned _ => True
  | .unstarted | .rejected _ | .finishing | .finished => False

structure Sound (connects : ℕ → Connect C) (log : List (Success C)) (generation : ℕ)
    (state : PoolState C) : Prop where
  /-- While someone dials there is no shared connection. -/
  connecting : ∀ k, state.connecting = some k →
    (connects k).generation = generation ∧ (connects k).dialer.Pending ∧ state.shared = none
  shared : ∀ conn k, state.shared = some (conn, k) →
    (connects k).generation = generation ∧ (connects k).installed = some conn ∧
      (state.sharedClaimed ↔ ∃ e ∈ log, e.ctx = k)
  claimed : state.shared = none → state.sharedClaimed = false
  all : ∀ conn, conn ∈ state.all ↔ ∃ k, state.shared = some (conn, k)

/-- A connection is reported as created to the first that gets it. -/
def Reported : List (Success C) → Prop
  | [] => True
  | e :: earlier => (e.created ↔ ∀ e' ∈ earlier, e'.ctx ≠ e.ctx) ∧ Reported earlier

structure Good (s : State C) : Prop where
  states : ∀ g, Sound s.connects s.log g (s.states g)
  pending : ∀ k, (s.connects k).dialer.Pending →
    (s.states (s.connects k).generation).connecting = some k ∧ (s.connects k).installed = none
  fresh : ∀ k, s.next ≤ k → s.connects k = {}
  le : ∀ k, (s.connects k).generation ≤ s.generation
  log : ∀ e ∈ s.log,
    (s.connects e.ctx).installed = some e.conn ∧ (s.connects e.ctx).generation = e.generation
  reported : Reported s.log

section

omit [DecidableEq C]

lemma sound_empty (connects : ℕ → Connect C) (log : List (Success C)) (g : ℕ) :
    Sound connects log g {} where
  connecting _ h := by cases h
  shared _ _ h := by cases h
  claimed _ := rfl
  all conn := by simp

variable {state : PoolState C}

lemma Sound.of_connects {connects connects' : ℕ → Connect C} {log : List (Success C)} {g : ℕ}
    (h : Sound connects log g state)
    (hpend : ∀ k, (connects k).dialer.Pending → (connects k).generation = g →
      (connects' k).dialer.Pending ∧ (connects' k).generation = g)
    (hinst : ∀ k conn, (connects k).installed = some conn → (connects k).generation = g →
      (connects' k).installed = some conn ∧ (connects' k).generation = g) :
    Sound connects' log g state where
  connecting k hk := by
    obtain ⟨hgen, hdial, hsh⟩ := h.connecting k hk
    obtain ⟨hdial', hgen'⟩ := hpend k hdial hgen
    exact ⟨hgen', hdial', hsh⟩
  shared conn k hk := by
    obtain ⟨hgen, hconn, hclaimed⟩ := h.shared conn k hk
    obtain ⟨hconn', hgen'⟩ := hinst k conn hconn hgen
    exact ⟨hgen', hconn', hclaimed⟩
  claimed := h.claimed
  all := h.all

lemma connects_startDial_self :
    s.startDial.connects s.next = { generation := s.generation, dialer := .dialing } :=
  update_self _ _ _

variable {k : ℕ}

lemma connects_startDial_of_ne (hk : k ≠ s.next) : s.startDial.connects k = s.connects k :=
  update_of_ne hk _ _

variable {connect : Connect C} {k' : ℕ}

lemma connects_put_self : (s.put k connect state).connects k = connect := update_self _ _ _

lemma connects_put_of_ne (hk : k' ≠ k) : (s.put k connect state).connects k' = s.connects k' :=
  update_of_ne hk _ _

namespace Good
section
variable (h : Good s)
include h

lemma of_agents (agents : ℕ → Agent C) : Good { s with agents } :=
  ⟨h.states, h.pending, h.fresh, h.le, h.log, h.reported⟩

lemma call (closer : Closer) (conn : C) : Good (s.call closer conn) :=
  ⟨h.states, h.pending, h.fresh, h.le, h.log, h.reported⟩

lemma close : Good { s with closed := true } :=
  ⟨h.states, h.pending, h.fresh, h.le, h.log, h.reported⟩

lemma lt_next (hk : (s.connects k).dialer ≠ .unstarted) : k < s.next := by
  by_contra hle
  rw [h.fresh k (Nat.le_of_not_lt hle)] at hk
  exact hk rfl

lemma startDial (hsh : s.state.shared = none)
    (hconn : s.state.connecting = none) : Good s.startDial := by
  have hnew : s.connects s.next = {} := h.fresh s.next le_rfl
  have hne : ∀ k, (s.connects k).dialer.Pending → k ≠ s.next := by
    rintro k hk rfl
    rw [hnew] at hk
    exact hk
  have hne' : ∀ k conn, (s.connects k).installed = some conn → k ≠ s.next := by
    rintro k conn hk rfl
    rw [hnew] at hk
    cases hk
  have hold : ∀ g, Sound s.startDial.connects s.log g (s.states g) := by
    intro g
    refine (h.states g).of_connects (fun k hk hgen => ?_) fun k conn hk hgen => ?_
    · rw [connects_startDial_of_ne (hne k hk)]
      exact ⟨hk, hgen⟩
    · rw [connects_startDial_of_ne (hne' k conn hk)]
      exact ⟨hk, hgen⟩
  refine ⟨(forall_update_iff s.states (Sound s.startDial.connects s.log)).2
    ⟨?_, fun g _ => hold g⟩, fun k hk => ?_, fun k hk => ?_, fun k => ?_, fun e he => ?_,
    h.reported⟩
  · obtain ⟨-, hsh', hclaimed, hall⟩ := hold s.generation
    refine ⟨fun k hk => ?_, hsh', hclaimed, hall⟩
    obtain rfl : s.next = k := Option.some.inj hk
    rw [connects_startDial_self]
    exact ⟨rfl, trivial, hsh⟩
  · change (update s.states s.generation _ _).connecting = _ ∧ _
    by_cases hnext : k = s.next
    · subst hnext
      rw [connects_startDial_self, update_self]
      exact ⟨rfl, rfl⟩
    · rw [connects_startDial_of_ne hnext] at hk ⊢
      obtain ⟨hk', hinst⟩ := h.pending k hk
      have hg : (s.connects k).generation ≠ s.generation := by
        intro hg
        rw [hg] at hk'
        rw [State.state, hk'] at hconn
        cases hconn
      rw [update_of_ne hg]
      exact ⟨hk', hinst⟩
  · have hle : s.next + 1 ≤ k := hk
    rw [connects_startDial_of_ne (by omega)]
    exact h.fresh k (by omega)
  · by_cases hnext : k = s.next
    · rw [hnext, connects_startDial_self]
      exact le_rfl
    · rw [connects_startDial_of_ne hnext]
      exact h.le k
  · rw [connects_startDial_of_ne (hne' _ _ (h.log e he).1)]
    exact h.log e he

lemma of_state {log : List (Success C)} (hst : Sound s.connects log s.generation state)
    (hothers : ∀ g ≠ s.generation, Sound s.connects log g (s.states g))
    (hconn : state.connecting = s.state.connecting)
    (hlog : ∀ e ∈ log, (s.connects e.ctx).installed = some e.conn ∧
      (s.connects e.ctx).generation = e.generation)
    (hrep : Reported log) : Good { s.setState state with log } := by
  refine ⟨(forall_update_iff s.states (Sound s.connects log)).2 ⟨hst, hothers⟩,
    fun k hk => ?_, h.fresh, h.le, hlog, hrep⟩
  · change (update s.states s.generation state (s.connects k).generation).connecting = _ ∧
      (s.connects k).installed = none
    obtain ⟨hk', hinst⟩ := h.pending k hk
    by_cases hg : (s.connects k).generation = s.generation
    · rw [hg, update_self, hconn, State.state, ← hg]
      exact ⟨hk', hinst⟩
    · rw [update_of_ne hg]
      exact ⟨hk', hinst⟩

lemma claim {ctx : ℕ} (hsh : s.state.shared = some (conn, ctx)) : Good (s.claim i conn ctx) := by
  have hsound := h.states s.generation
  obtain ⟨hgen, hinst, hclaimed⟩ := hsound.shared conn ctx hsh
  refine h.of_state ⟨hsound.connecting, fun conn' k hk => ?_, fun hnone => ?_, hsound.all⟩
    (fun g hg => ?_) rfl (fun e he => ?_) ⟨?_, h.reported⟩
  · obtain ⟨rfl, rfl⟩ : conn = conn' ∧ ctx = k := by simpa [hsh] using hk
    exact ⟨hgen, hinst, by simp⟩
  · exact absurd (hsh.symm.trans hnone) (by simp)
  · -- the shared connections of other pool states come from other dials
    have hold := h.states g
    refine ⟨hold.connecting, fun conn' k hk => ?_, hold.claimed, hold.all⟩
    obtain ⟨hgen', hinst', hclaimed'⟩ := hold.shared conn' k hk
    have hne : ctx ≠ k := by
      rintro rfl
      exact hg (hgen'.symm.trans hgen)
    exact ⟨hgen', hinst', by simp [hclaimed', hne]⟩
  · obtain rfl | he := mem_cons.1 he
    · exact ⟨hinst, hgen⟩
    · exact h.log e he
  · have hclaimed' : s.state.sharedClaimed ↔ ∃ e ∈ s.log, e.ctx = ctx := hclaimed
    rw [Bool.not_eq_true', ← Bool.not_eq_true, hclaimed']
    push Not
    rfl

lemma setDialer {dialer : Dialer C} (hst : (s.connects k).dialer ≠ .unstarted)
    (hpend : dialer.Pending ↔ (s.connects k).dialer.Pending) : Good (s.setDialer k dialer) := by
  have hsame : ∀ k', ((s.setDialer k dialer).connects k').generation = (s.connects k').generation ∧
      ((s.setDialer k dialer).connects k').installed = (s.connects k').installed ∧
      (((s.setDialer k dialer).connects k').dialer.Pending ↔ (s.connects k').dialer.Pending) := by
    intro k'
    by_cases hk : k' = k
    · subst hk
      simp [State.setDialer, hpend]
    · simp [State.setDialer, hk]
  refine ⟨fun g => ?_, fun k' hk' => ?_, fun k' hk' => ?_, fun k' => ?_, fun e he => ?_, h.reported⟩
  · refine (h.states g).of_connects (fun k' hk' hg => ?_) fun k' conn hk' hg => ?_
    · exact ⟨(hsame k').2.2.2 hk', (hsame k').1.trans hg⟩
    · exact ⟨(hsame k').2.1.trans hk', (hsame k').1.trans hg⟩
  · rw [(hsame k').1, (hsame k').2.1]
    exact h.pending k' ((hsame k').2.2.1 hk')
  · have hne : k' ≠ k := (lt_of_lt_of_le (h.lt_next hst) hk').ne'
    exact (update_of_ne hne _ _).trans (h.fresh k' hk')
  · rw [(hsame k').1]
    exact h.le k'
  · rw [(hsame e.ctx).1, (hsame e.ctx).2.1]
    exact h.log e he

lemma put (hpend : (s.connects k).dialer.Pending)
    (hgen : connect.generation = (s.connects k).generation) (hdone : ¬connect.dialer.Pending)
    (hsound : Sound (s.put k connect state).connects s.log connect.generation state) :
    Good (s.put k connect state) := by
  obtain ⟨hk, hinst⟩ := h.pending k hpend
  have hst : (s.connects k).dialer ≠ .unstarted := by
    intro hdial
    rw [hdial] at hpend
    exact hpend
  refine ⟨(forall_update_iff s.states (Sound (s.put k connect state).connects s.log)).2
    ⟨hsound, fun g hg => ?_⟩, fun k' hk' => ?_, fun k' hk' => ?_, fun k' => ?_, fun e he => ?_,
    h.reported⟩
  · have hne : ∀ k', (s.connects k').generation = g → k' ≠ k := by
      rintro k' hk' rfl
      exact hg (hk'.symm.trans hgen.symm)
    refine (h.states g).of_connects (fun k' hk' hg' => ?_) fun k' conn hk' hg' => ?_
    all_goals
      rw [connects_put_of_ne (hne k' hg')]
      exact ⟨hk', hg'⟩
  · have hne : k' ≠ k := by
      rintro rfl
      rw [connects_put_self] at hk'
      exact hdone hk'
    rw [connects_put_of_ne hne] at hk' ⊢
    obtain ⟨hconnecting, hinst'⟩ := h.pending k' hk'
    -- in its own pool state nobody else dials
    have hg : (s.connects k').generation ≠ connect.generation := by
      intro hg
      rw [hg, hgen, hk] at hconnecting
      exact hne (Option.some.inj hconnecting).symm
    change (update s.states connect.generation state _).connecting = _ ∧ _
    rw [update_of_ne hg]
    exact ⟨hconnecting, hinst'⟩
  · have hne : k' ≠ k := (lt_of_lt_of_le (h.lt_next hst) hk').ne'
    rw [connects_put_of_ne hne]
    exact h.fresh k' hk'
  · by_cases hne : k' = k
    · rw [hne, connects_put_self, hgen]
      exact h.le k
    · rw [connects_put_of_ne hne]
      exact h.le k'
  · have hne : e.ctx ≠ k := by
      intro hctx
      have hconn := (h.log e he).1
      rw [hctx, hinst] at hconn
      cases hconn
    rw [connects_put_of_ne hne]
    exact h.log e he

lemma renew : Good s.renew := by
  refine ⟨(forall_update_iff s.states (Sound s.connects s.log)).2
    ⟨sound_empty _ _ _, fun g _ => h.states g⟩, fun k hk => ?_, h.fresh,
    fun k => (h.le k).trans (Nat.le_succ _), h.log, h.reported⟩
  · change (update s.states (s.generation + 1) {} (s.connects k).generation).connecting =
      _ ∧ (s.connects k).installed = none
    rw [update_of_ne (Nat.ne_of_lt (Nat.lt_succ_of_le (h.le k)))]
    exact h.pending k hk

end

end Good

lemma good_start : Good ({} : State C) where
  states g := sound_empty _ _ g
  pending _ h := h.elim
  fresh _ _ := rfl
  le _ := le_rfl
  log _ h := by cases h
  reported := trivial

variable {dialer : Dialer C}

lemma connects_setDialer_self : (s.setDialer k dialer).connects k = { s.connects k with dialer } :=
  update_self _ _ _

lemma connects_setDialer_of_ne (hk : k' ≠ k) : (s.setDialer k dialer).connects k' = s.connects k' :=
  update_of_ne hk _ _

end

namespace Good

lemma removeConn (h : Good s) (conn : C) : Good (s.setState (State.removeConn s.state conn)) := by
  have hsound := h.states s.generation
  have hconn : (State.removeConn s.state conn).connecting = s.state.connecting := by
    unfold State.removeConn
    split
    · split_ifs <;> rfl
    · rfl
  refine h.of_state ?_ (fun g _ => h.states g) hconn h.log h.reported
  unfold State.removeConn
  split
  · rename_i shared ctx hsh
    obtain ⟨hgen, hinst, hclaimed⟩ := hsound.shared shared ctx hsh
    -- the shared connection is the only one that is tracked
    have hall : ∀ conn', conn' ∈ s.state.all ↔ conn' = shared := by
      intro conn'
      rw [show conn' ∈ s.state.all ↔ _ from hsound.all conn']
      simp [show (s.states s.generation).shared = _ from hsh, eq_comm]
    split_ifs with heq
    · refine ⟨fun k hk => ?_, fun _ _ hnone => ?_, fun _ => rfl, fun conn' => ?_⟩
      · obtain ⟨-, -, hnone⟩ := hsound.connecting k hk
        exact absurd (hsh.symm.trans hnone) (by simp)
      · cases hnone
      · simp [hall, heq]
    · refine ⟨hsound.connecting, hsound.shared, hsound.claimed, fun conn' => ?_⟩
      have hne : conn ∉ s.state.all := fun hmem => heq ((hall conn).1 hmem).symm
      rw [Finset.erase_eq_of_notMem hne]
      exact hsound.all conn'
  · rename_i hsh
    refine ⟨hsound.connecting, hsound.shared, hsound.claimed, fun conn' => ?_⟩
    have hne : conn ∉ s.state.all := by
      rw [show conn ∈ s.state.all ↔ _ from hsound.all conn]
      simp [show (s.states s.generation).shared = _ from hsh]
    rw [Finset.erase_eq_of_notMem hne]
    exact hsound.all conn'

lemma connectSingle (h : Good s) {result : Option C}
    (hdial : (s.connects k).dialer = .returned result) : Good (s.connectSingle k result) := by
  have hpend : (s.connects k).dialer.Pending := hdial ▸ trivial
  obtain ⟨hk, hinst⟩ := h.pending k hpend
  have hsound := h.states (s.connects k).generation
  obtain ⟨-, -, hsh⟩ := hsound.connecting k hk
  -- without a new connection the pool state has none
  have hemp : ∀ connects, Sound connects s.log (s.connects k).generation
      { s.states (s.connects k).generation with connecting := none } := by
    intro connects
    refine ⟨fun _ hnone => ?_, fun conn k' hconn => ?_, hsound.claimed, hsound.all⟩
    · cases hnone
    · rw [hsh] at hconn
      cases hconn
  unfold State.connectSingle
  dsimp only
  split
  · exact h.put hpend rfl not_false (hemp _)
  · rename_i conn
    split_ifs
    · exact h.put hpend rfl not_false (hemp _)
    · exact h.put hpend rfl not_false (hemp _)
    · refine h.put hpend rfl not_false ⟨fun _ hnone => ?_, fun conn' k' hconn => ?_,
        fun hnone => ?_, fun conn' => ?_⟩
      · cases hnone
      · obtain ⟨rfl, rfl⟩ : conn = conn' ∧ k = k' := by simpa using hconn
        rw [connects_put_self]
        refine ⟨rfl, rfl, ?_⟩
        -- nobody has got a connection from this dial
        have hlog : ¬∃ e ∈ s.log, e.ctx = k := by
          rintro ⟨e, he, rfl⟩
          rw [(h.log e he).1] at hinst
          cases hinst
        simp [hsound.claimed hsh, hlog]
      · cases hnone
      · simp [hsound.all, hsh, eq_comm]

lemma change (h : Good s) (hchg : Change s t) : Good t := by
  cases hchg with
  | nothing => exact h
  | startDial hsh hconn => exact h.startDial hsh hconn
  | claim _ hsh _ => exact h.claim hsh
  | removeConn => exact h.removeConn _
  | returned hdial | abandoned hdial | done hdial =>
    refine h.setDialer ?_ ?_
    · simp [hdial]
    · simp [hdial, Dialer.Pending]
  | closeAbandoned hdial | closeRejected hdial =>
    refine (h.call _ _).setDialer ?_ ?_
    · simp [State.call, hdial]
    · simp [State.call, hdial, Dialer.Pending]
  | connectSingle hdial => exact h.connectSingle hdial
  | renew => exact h.renew
  | close => exact h.close
  | closeConn => exact h.call _ _

lemma step (h : Good s) (action : Action C) : Good (SharedPool.step s action) :=
  step_of_change (fun _ agents ht => ht.of_agents agents) (fun _ => h.change) action

end Good

def Reachable (s : State C) : Prop := Run step (fun _ _ => True) {} s

lemma Reachable.good (h : Reachable s) : Good s :=
  h.invariant good_start fun _ action hs _ => hs.step action

lemma connectSingle_eq_put (s : State C) (k : ℕ) (result : Option C) :
    ∃ connect state, s.connectSingle k result = s.put k connect state ∧
    connect.generation = (s.connects k).generation := by
  unfold State.connectSingle
  dsimp only
  split
  · exact ⟨_, _, rfl, rfl⟩
  · split_ifs <;> exact ⟨_, _, rfl, rfl⟩

/-! ### Connections of an earlier state -/

/-- The pool was reset or closed during the dial. -/
structure Stale (s : State C) (k : ℕ) : Prop where
  started : (s.connects k).dialer ≠ .unstarted
  old : s.closed ∨ (s.connects k).generation < s.generation
  installed : (s.connects k).installed = none

lemma Stale.connectSingle_eq (h : Stale s k) (result : Option C) :
    ∃ state, s.connectSingle k result = s.put k { s.connects k with
      err := true
      dialer := result.elim .finishing .rejected } state := by
  unfold State.connectSingle
  cases result with
  | none => exact ⟨_, rfl⟩
  | some conn =>
    by_cases hcl : s.closed
    · exact ⟨_, if_pos hcl⟩
    · have hne : s.generation ≠ (s.connects k).generation := (h.old.resolve_left hcl).ne'
      exact ⟨_, (if_neg hcl).trans (if_pos hne)⟩

omit [DecidableEq C] in
lemma Stale.setDialer (h : Stale s k)
    (hdial : dialer ≠ .unstarted) : Stale (s.setDialer k' dialer) k := by
  by_cases hk : k = k'
  · subst hk
    refine ⟨?_, ?_, ?_⟩ <;> rw [connects_setDialer_self]
    exacts [hdial, h.old, h.installed]
  · refine ⟨?_, ?_, ?_⟩ <;> rw [connects_setDialer_of_ne hk]
    exacts [h.started, h.old, h.installed]

omit [DecidableEq C] in
lemma Stale.call (h : Stale s k) (closer : Closer) (conn : C) : Stale (s.call closer conn) k :=
  ⟨h.started, h.old, h.installed⟩

lemma Stale.change (h : Stale s k) (hgood : Good s) (hchg : Change s t) : Stale t k := by
  cases hchg with
  | nothing => exact h
  | startDial =>
    have hk : k ≠ s.next := (hgood.lt_next h.started).ne
    refine ⟨?_, ?_, ?_⟩ <;> rw [connects_startDial_of_ne hk]
    exacts [h.started, h.old, h.installed]
  | claim | removeConn => exact ⟨h.started, h.old, h.installed⟩
  | returned | abandoned | done => exact h.setDialer (by simp)
  | closeAbandoned | closeRejected =>
    exact (h.call _ _).setDialer (by simp)
  | @connectSingle k' result hdial =>
    by_cases hk : k = k'
    · subst hk
      obtain ⟨state, hput⟩ := h.connectSingle_eq result
      rw [hput]
      refine ⟨?_, ?_, ?_⟩ <;> rw [connects_put_self]
      · cases result <;> simp
      · exact h.old
      · exact h.installed
    · obtain ⟨connect, state, hput, -⟩ := connectSingle_eq_put s k' result
      rw [hput]
      refine ⟨?_, ?_, ?_⟩ <;> rw [connects_put_of_ne hk]
      exacts [h.started, h.old, h.installed]
  | renew => exact ⟨h.started, h.old.imp id (Nat.lt_succ_of_lt ·), h.installed⟩
  | close => exact ⟨h.started, .inl rfl, h.installed⟩
  | closeConn => exact h.call _ _

def Dialer.Drops (conn : C) (dialer : Dialer C) : Prop :=
  dialer = .returned (some conn) ∨ dialer = .abandoned conn ∨ dialer = .rejected conn

def Discards (s : State C) (k : ℕ) (conn : C) : Prop :=
  (s.connects k).dialer.Drops conn ∨ (.dialer k, conn) ∈ s.closeCalls

lemma Change.closeCalls (h : Change s t) : s.closeCalls ⊆ t.closeCalls := by
  cases h with
  | @connectSingle k result _ =>
    obtain ⟨connect, state, hput, -⟩ := connectSingle_eq_put s k result
    rw [hput]
    exact .refl _
  | closeAbandoned | closeRejected | closeConn => exact subset_cons_self _ _
  | _ => exact .refl _

omit [DecidableEq C] in
lemma Discards.setDialer (h : (s.connects k).dialer.Drops conn)
    (hdial : ¬(s.connects k').dialer.Drops conn) :
    Discards (s.setDialer k' dialer) k conn := by
  have hk : k ≠ k' := by
    rintro rfl
    exact hdial h
  refine .inl ?_
  rw [connects_setDialer_of_ne hk]
  exact h

omit [DecidableEq C] in
lemma Discards.close {conn' : C} (h : (s.connects k).dialer.Drops conn)
    (hdial : (s.connects k').dialer = .abandoned conn' ∨ (s.connects k').dialer = .rejected conn') :
    Discards ((s.call (.dialer k') conn').setDialer k' dialer) k conn := by
  by_cases hk : k = k'
  · subst hk
    have hconn : conn = conn' := by
      obtain hdial | hdial := hdial
      all_goals
        rw [hdial] at h
        simpa [Dialer.Drops, eq_comm] using h
    rw [hconn]
    exact .inr mem_cons_self
  · refine .inl ?_
    rw [connects_setDialer_of_ne hk]
    exact h

lemma Discards.change (h : Discards s k conn) (hstale : Stale s k)
    (hgood : Good s) (hchg : Change s t) : Discards t k conn := by
  obtain hdrops | hcl := h
  · cases hchg with
    | nothing | claim | removeConn | renew | close | closeConn => exact .inl hdrops
    | startDial =>
      refine .inl ?_
      rw [connects_startDial_of_ne (hgood.lt_next hstale.started).ne]
      exact hdrops
    | returned hdial | abandoned hdial | done hdial =>
      refine .setDialer hdrops ?_
      simp [hdial, Dialer.Drops]
    | closeAbandoned hdial => exact .close hdrops (.inl hdial)
    | closeRejected hdial => exact .close hdrops (.inr hdial)
    | @connectSingle k' result hdial =>
      refine .inl ?_
      by_cases hk : k = k'
      · subst hk
        obtain ⟨state, hput⟩ := hstale.connectSingle_eq result
        obtain rfl : result = some conn := by
          rw [hdial] at hdrops
          simpa [Dialer.Drops] using hdrops
        rw [hput, connects_put_self]
        exact .inr (.inr rfl)
      · obtain ⟨connect, state, hput, -⟩ := connectSingle_eq_put s k' result
        rw [hput, connects_put_of_ne hk]
        exact hdrops
  · exact .inr (hchg.closeCalls hcl)

lemma Stale.step (h : Stale s k) (hgood : Good s) (action : Action C) :
    Stale (SharedPool.step s action) k :=
  step_of_change (fun _ _ ht => ⟨ht.started, ht.old, ht.installed⟩) (fun _ => h.change hgood) action

lemma Discards.step (h : Discards s k conn) (hstale : Stale s k)
    (hgood : Good s) (action : Action C) : Discards (SharedPool.step s action) k conn :=
  step_of_change (fun _ _ => id) (fun _ => h.change hstale hgood) action

lemma closeCalls_step (s : State C) (action : Action C) :
    s.closeCalls ⊆ (step s action).closeCalls :=
  step_of_change (P := fun t => s.closeCalls ⊆ t.closeCalls) (fun _ _ => id)
    (fun _ => closeCalls) action

lemma Discards.closed (h : Discards s k conn) (hstale : Stale s k) : (.dialer k, conn) ∈
    (SharedPool.step (SharedPool.step s (.connectSingle k)) (.closeDialed k)).closeCalls := by
  obtain (hdial | hdial | hdial) | hcl := h
  · obtain ⟨state, hput⟩ := hstale.connectSingle_eq (some conn)
    have hstep : SharedPool.step s (.connectSingle k) = s.connectSingle k (some conn) := by
      simp [SharedPool.step, hdial]
    rw [hstep, hput]
    simp only [SharedPool.step, connects_put_self, Option.elim]
    exact mem_cons_self
  · simp only [SharedPool.step, hdial]
    exact mem_cons_self
  · simp only [SharedPool.step, hdial]
    exact mem_cons_self
  · exact closeCalls_step _ _ (closeCalls_step _ _ hcl)

lemma Change.of_success (h : Change s t) (he : t.log = e :: s.log) :
    s.closed = false ∧ e.generation = s.generation ∧
    (s.agents e.goroutine).Observes e.generation ∧ s.state.shared = some (e.conn, e.ctx) := by
  cases h with
  | claim hcl hsh hag =>
    obtain ⟨rfl, -⟩ := cons.inj he
    exact ⟨hcl, rfl, hag, hsh⟩
  | @connectSingle k result _ =>
    obtain ⟨connect, state, hput, -⟩ := connectSingle_eq_put s k result
    rw [hput] at he
    exact absurd he.symm (cons_ne_self _ _)
  | _ => exact absurd he.symm (cons_ne_self _ _)

/-! ### What is kept and closed -/

def Retained (shared shared' : Option (C × ℕ)) : Prop := shared' = shared ∨ shared' = none

omit [DecidableEq C] in
lemma retained_update (state : PoolState C)
    (h : Retained (s.states generation).shared state.shared) (g : ℕ) :
    Retained (s.states g).shared (update s.states generation state g).shared :=
  (forall_update_iff s.states fun g state =>
    Retained (s.states g).shared state.shared).2 ⟨h, fun _ _ => .inl rfl⟩ g

lemma retained_removeConn (state : PoolState C) (conn : C) :
    Retained state.shared (State.removeConn state conn).shared := by
  unfold State.removeConn
  split
  · split_ifs
    · exact .inr rfl
    · exact .inl rfl
  · exact .inl rfl

lemma Good.retained_change (h : Good s) (hchg : Change s t) {g : ℕ}
    (hsh : (s.states g).shared ≠ none) : Retained (s.states g).shared (t.states g).shared := by
  cases hchg with
  | startDial =>
    exact retained_update { s.state with connecting := some s.next } (.inl rfl) g
  | claim => exact retained_update { s.state with sharedClaimed := true } (.inl rfl) g
  | removeConn => exact retained_update _ (retained_removeConn _ _) g
  | @connectSingle k result hdial =>
    have hpend : (s.connects k).dialer.Pending := hdial ▸ trivial
    obtain ⟨connect, state, hput, hgen⟩ := connectSingle_eq_put s k result
    have hg : g ≠ connect.generation := by
      rintro rfl
      rw [hgen] at hsh
      exact hsh ((h.states _).connecting k (h.pending k hpend).1).2.2
    rw [hput]
    exact .inl (congrArg PoolState.shared (update_of_ne hg _ _))
  | renew => exact retained_update {} (.inr rfl) g
  | _ => exact .inl rfl

def Action.Resets (s : State C) (action : Action C) : Prop :=
  ∃ i, s.agents i = .rest ∧ (action = .reset i ∨ action = .close i)

lemma Good.stale_of_resets (h : Good s) {action : Action C} (hreset : action.Resets s)
    (hdial : (s.connects k).dialer = .dialing) : Stale (SharedPool.step s action) k := by
  have hpend : (s.connects k).dialer.Pending := hdial ▸ trivial
  have hinst := (h.pending k hpend).2
  have hst : (s.connects k).dialer ≠ .unstarted := by simp [hdial]
  by_cases hcl : s.closed
  · exact .step ⟨hst, .inl hcl, hinst⟩ h action
  · obtain ⟨i, hag, rfl | rfl⟩ := hreset
    · simp only [SharedPool.step, hag, State.reset, if_neg hcl]
      exact ⟨hst, .inr (Nat.lt_succ_of_le (h.le k)), hinst⟩
    · simp only [SharedPool.step, hag, State.close, if_neg hcl]
      exact ⟨hst, .inl rfl, hinst⟩

omit [DecidableEq C] in
lemma Reported.of_append {later earlier : List (Success C)}
    (h : Reported (later ++ e :: earlier)) : e.created ↔ ∀ e' ∈ earlier, e'.ctx ≠ e.ctx := by
  induction later with
  | nil => exact h.1
  | cons _ later ih => exact ih h.2

structure Safe (s : State C) : Prop where
  one_tracked : ∀ g conn, conn ∈ (s.states g).all ↔ ∃ ctx, (s.states g).shared = some (conn, ctx)
  /-- No connection is installed while there is a shared one. -/
  one_shared : ∀ action g, (s.states g).shared ≠ none →
    Retained (s.states g).shared ((step s action).states g).shared
  one_dial : ∀ k k', (s.connects k).dialer = .dialing → (s.connects k').dialer = .dialing →
    (s.connects k).generation = (s.connects k').generation → k = k'
  /-- Only the first goroutine gets a connection as a created one. -/
  reported : ∀ later e earlier, s.log = later ++ e :: earlier →
    (e.created ↔ ∀ e' ∈ earlier, e'.ctx ≠ e.ctx)
  /-- A goroutine gets the connection of the state it has seen. -/
  observed : ∀ action e, (step s action).log = e :: s.log →
    s.closed = false ∧ e.generation = s.generation ∧
      (s.agents e.goroutine).Observes e.generation ∧ s.state.shared = some (e.conn, e.ctx) ∧
      (s.connects e.ctx).generation = e.generation ∧ (s.connects e.ctx).installed = some e.conn
  /-- The connection of an outdated dial is only closed. -/
  discarded : ∀ action : Action C, action.Resets s → ∀ k, (s.connects k).dialer = .dialing →
    ∀ t, Run step (fun _ _ => True) (step s action) t →
      (∀ g conn, (t.states g).shared ≠ some (conn, k)) ∧ (∀ e ∈ t.log, e.ctx ≠ k) ∧
      ∀ conn cancelled, (t.connects k).dialer = .dialing →
        ∀ u, Run step (fun _ _ => True) (step t (.dialed k (some conn) cancelled)) u →
          Discards u k conn ∧
            (.dialer k, conn) ∈ (step (step u (.connectSingle k)) (.closeDialed k)).closeCalls

omit [DecidableEq C] in
lemma Good.one_dial (h : Good s) (hk : (s.connects k).dialer.Pending)
    (hk' : (s.connects k').dialer.Pending)
    (hgen : (s.connects k).generation = (s.connects k').generation) : k = k' := by
  have hconn := (h.pending k hk).1
  rw [hgen, (h.pending k' hk').1] at hconn
  exact (Option.some.inj hconn).symm

lemma Good.run (h : Good s) (hstale : Stale s k)
    (hrun : Run SharedPool.step (fun _ _ => True) s t) : Good t ∧ Stale t k := by
  refine hrun.invariant (I := fun t => Good t ∧ Stale t k) ⟨h, hstale⟩ ?_
  rintro t action ⟨ht, hstale⟩ -
  exact ⟨ht.step action, hstale.step ht action⟩

lemma Discards.run (h : Discards s k conn) (hstale : Stale s k)
    (hgood : Good s) (hrun : Run SharedPool.step (fun _ _ => True) s t) :
    Discards t k conn := by
  have hall : (Good t ∧ Stale t k) ∧ Discards t k conn := by
    refine hrun.invariant (I := fun t => (Good t ∧ Stale t k) ∧ Discards t k conn)
      ⟨⟨hgood, hstale⟩, h⟩ ?_
    rintro t action ⟨⟨ht, hstale⟩, hdisc⟩ -
    exact ⟨⟨ht.step action, hstale.step ht action⟩, hdisc.step hstale ht action⟩
  exact hall.2

omit [DecidableEq C] in
lemma Good.of_stale (h : Good s) (hstale : Stale s k) :
    (∀ g conn, (s.states g).shared ≠ some (conn, k)) ∧ ∀ e ∈ s.log, e.ctx ≠ k := by
  constructor
  · intro g conn hsh
    obtain ⟨-, hinst, -⟩ := (h.states g).shared conn k hsh
    rw [hstale.installed] at hinst
    cases hinst
  · rintro e he rfl
    obtain ⟨hinst, -⟩ := h.log e he
    rw [hstale.installed] at hinst
    cases hinst

lemma discards_dialed (hdial : (s.connects k).dialer = .dialing) (conn : C)
    (cancelled : Bool) : Discards (step s (.dialed k (some conn) cancelled)) k conn := by
  refine .inl ?_
  simp only [step, hdial, connects_setDialer_self, Dialer.dialed]
  split_ifs
  · exact .inr (.inl rfl)
  · exact .inl rfl

/-- Every state that is reached is safe. -/
theorem shared_of_reachable (h : Reachable s) : Safe s := by
  have hgood := h.good
  refine ⟨fun g => (hgood.states g).all, fun action g hsh => ?_, fun k k' hk hk' => ?_,
    fun later e earlier hlog => ?_, fun action e he => ?_, ?_⟩
  · exact step_of_change (P := fun t => Retained (s.states g).shared (t.states g).shared)
      (fun _ _ => id) (fun _ hchg => hgood.retained_change hchg hsh) action
  · exact hgood.one_dial (hk ▸ trivial) (hk' ▸ trivial)
  · have hrep := hgood.reported
    rw [hlog] at hrep
    exact hrep.of_append
  · obtain ⟨t, hchg, agents, hstep⟩ := step_steps s action
    rw [hstep] at he
    obtain ⟨hcl, hgen, hag, hsh⟩ := hchg.of_success he
    obtain ⟨hgen', hinst, -⟩ := (hgood.states s.generation).shared _ _ hsh
    exact ⟨hcl, hgen, hag, hsh, hgen'.trans hgen.symm, hinst⟩
  · intro action hreset k hdial t hrun
    obtain ⟨ht, hstale⟩ := (hgood.step action).run (hgood.stale_of_resets hreset hdial) hrun
    obtain ⟨hsh, hlog⟩ := ht.of_stale hstale
    refine ⟨hsh, hlog, fun conn cancelled hdialing u hrun' => ?_⟩
    have ht' := ht.step (.dialed k (some conn) cancelled)
    have hstale' := hstale.step ht (.dialed k (some conn) cancelled)
    have hdisc := (discards_dialed hdialing conn cancelled).run hstale' ht' hrun'
    exact ⟨hdisc, hdisc.closed (ht'.run hstale' hrun').2⟩

theorem shared_of_reachable_reset :
    let actions : List (Action ℕ) :=
      [.acquire 0, .acquireShared 0 fun _ => true, .acquire 1, .acquireShared 1 fun _ => true,
        .cancelled 0]
    let s := actions.foldl step {}
    let actions' : List (Action ℕ) :=
      [.dialed 0 (some 7) false, .connectSingle 0, .closeDialed 0, .done 0,
        .collectShared 1 fun _ => true, .acquireShared 1 fun _ => true, .dialed 1 (some 8) false,
        .connectSingle 1, .done 1, .collectShared 1 fun _ => true]
    let t := actions'.foldl step (step s (.reset 2))
    (s.connects 0).dialer = .dialing ∧ s.agents 1 = .waiting 0 0 false ∧
      (∀ g conn, (t.states g).shared ≠ some (conn, 0)) ∧ (∀ e ∈ t.log, e.ctx ≠ 0) ∧
      t.closeCalls = [(.dialer 0, 7)] ∧ t.log = [⟨1, 1, 8, 1, true⟩] := by
  intro actions s actions' t
  have hrun : Reachable s := Run.start.foldl (by decide +kernel)
  have hrun' : Run step (fun _ _ => True) (step s (.reset 2)) t :=
    Run.start.foldl (by decide +kernel)
  have hrest : s.agents 2 = .rest := by decide +kernel
  have hdial : (s.connects 0).dialer = .dialing := by decide +kernel
  obtain ⟨hsh, hlog, -⟩ :=
    (shared_of_reachable hrun).discarded (.reset 2) ⟨2, hrest, .inl rfl⟩ 0 hdial t hrun'
  exact ⟨hdial, by decide +kernel, hsh, hlog, by decide +kernel, by decide +kernel⟩

end SingBox.SharedPool
