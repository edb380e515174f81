import SingBox.Lib.Run
import Mathlib.Data.Finset.Basic

/-!
# The ordered connection pool

The connection that has waited longest is used first. Steps are what goroutines do under the lock,
and calls of the dialer and of `Close`. For each connection a `Phase` says who has it, and every
step leads from one phase to another.
-/

namespace SingBox.OrderedPool
open Function List Finset

/-! ### The pool -/

variable {C : Type} [DecidableEq C]

inductive Agent (C : Type) where
  | rest
  | acquiring
  /-- It waits for a slot or the dialer, for the pool state of this generation. -/
  | dialing (generation : ℕ)
  | dialed (generation : ℕ) (conn : C)
  | holding (conn : C)
  /-- About to close these connections, and then to try again or return. -/
  | closing (conns : Finset C) (retry : Bool)

open Agent

structure PoolState (C : Type) where
  all : Finset C := ∅
  idle : List C := []
  idleElements : Finset C := ∅

structure State (C : Type) where
  closed : Bool := false
  generation : ℕ := 0
  state : PoolState C := {}
  agents : ℕ → Agent C := fun _ => .rest
  returned : Finset C := ∅
  installed : C → Option ℕ := fun _ => none
  closedConns : Finset C := ∅

namespace State
variable (s : State C) (i : ℕ)

def become (agent : Agent C) : State C := { s with agents := update s.agents i agent }

def removeConn (state : PoolState C) (conn : C) : PoolState C where
  all := state.all.erase conn
  idle := if conn ∈ state.idleElements then state.idle.erase conn else state.idle
  idleElements := state.idleElements.erase conn

def acquireOrdered (isAlive : C → Bool) : State C := if s.closed then s.become i .rest
  else match s.state.idle with
    | [] => s.become i (.dialing s.generation)
    | conn :: idle =>
      let elements := s.state.idleElements.erase conn
      if isAlive conn then
        { s with state := ⟨s.state.all, idle, elements⟩ }.become i (.holding conn)
      else
        { s with state := ⟨s.state.all.erase conn, idle, elements⟩ }.become i (.closing {conn} true)

def install (generation : ℕ) (conn : C) : State C :=
  if s.closed then s.become i (.closing {conn} false)
  else if s.generation ≠ generation then s.become i (.closing {conn} false)
  else
    { s with
        state := { s.state with all := insert conn s.state.all }
        installed := update s.installed conn (some generation) }.become i (.holding conn)

def release (conn : C) (reuse : Bool) (isAlive : C → Bool) : State C :=
  if s.closed then s.become i (.closing {conn} false)
  else if conn ∉ s.state.all then s.become i (.closing {conn} false)
  else if !reuse || !isAlive conn then
    { s with state := removeConn s.state conn }.become i (.closing {conn} false)
  else if conn ∉ s.state.idleElements then
    { s with
        state := ⟨s.state.all, s.state.idle ++ [conn],
          insert conn s.state.idleElements⟩ }.become i .rest
  else s.become i .rest

def invalidate (conn : C) : State C := if s.closed then s.become i (.closing {conn} false)
  else if conn ∉ s.state.all then s.become i .rest
  else { s with state := removeConn s.state conn }.become i (.closing {conn} false)

def reset : State C := if s.closed then s
  else { s with state := {}, generation := s.generation + 1 }.become i (.closing s.state.all false)

def close : State C := if s.closed then s
  else { s with state := {}, closed := true }.become i (.closing s.state.all false)

end State

/-! ### The steps -/

open State

inductive Action (C : Type) where
  | acquire (i : ℕ)
  | acquireOrdered (i : ℕ) (isAlive : C → Bool)
  | fail (i : ℕ)
  | dialed (i : ℕ) (conn : C)
  /-- A context was cancelled while the dialer was running. -/
  | abandon (i : ℕ)
  | install (i : ℕ)
  | release (i : ℕ) (reuse : Bool) (isAlive : C → Bool)
  | invalidate (i : ℕ)
  | reset (i : ℕ)
  | close (i : ℕ)
  | closeConn (i : ℕ) (conn : C)
  | finish (i : ℕ)

def step (s : State C) : Action C → State C
  | .acquire i => match s.agents i with
    | .rest => s.become i .acquiring
    | _ => s
  | .acquireOrdered i isAlive => match s.agents i with
    | .acquiring => s.acquireOrdered i isAlive
    | _ => s
  | .fail i => match s.agents i with
    | .dialing _ => s.become i .rest
    | _ => s
  | .dialed i conn => match s.agents i with
    | .dialing generation =>
      { s with returned := insert conn s.returned }.become i (.dialed generation conn)
    | _ => s
  | .abandon i => match s.agents i with
    | .dialed _ conn => s.become i (.closing {conn} false)
    | _ => s
  | .install i => match s.agents i with
    | .dialed generation conn => s.install i generation conn
    | _ => s
  | .release i reuse isAlive => match s.agents i with
    | .holding conn => s.release i conn reuse isAlive
    | _ => s
  | .invalidate i => match s.agents i with
    | .holding conn => s.invalidate i conn
    | _ => s
  | .reset i => match s.agents i with
    | .rest => s.reset i
    | _ => s
  | .close i => match s.agents i with
    | .rest => s.close i
    | _ => s
  | .closeConn i conn => match s.agents i with
    | .closing conns retry =>
      if conn ∈ conns then
        { s with closedConns := insert conn s.closedConns }.become i
          (.closing (conns.erase conn) retry)
      else s
    | _ => s
  | .finish i => match s.agents i with
    | .closing conns retry =>
      if conns = ∅ then s.become i (if retry then .acquiring else .rest) else s
    | _ => s

/-- The dialer never returns a connection twice. -/
def Fresh (s : State C) : Action C → Prop
  | .dialed _ conn => conn ∉ s.returned
  | _ => True

instance Fresh.decidable (s : State C) : DecidablePred (Fresh s)
  | .dialed _ conn => inferInstanceAs (Decidable (conn ∉ s.returned))
  | .acquire _ | .acquireOrdered _ _ | .fail _ | .abandon _ | .install _ | .release _ _ _
  | .invalidate _ | .reset _ | .close _ | .closeConn _ _ | .finish _ => isTrue trivial

inductive Taken (s : State C) : Action C → State C → Prop
  | acquire {i : ℕ} : s.agents i = .rest → Taken s (.acquire i) (s.become i .acquiring)
  | acquireOrdered {i : ℕ} {isAlive : C → Bool} : s.agents i = .acquiring →
      Taken s (.acquireOrdered i isAlive) (s.acquireOrdered i isAlive)
  | fail {i generation : ℕ} : s.agents i = .dialing generation →
      Taken s (.fail i) (s.become i .rest)
  | dialed {i generation : ℕ} {conn : C} : s.agents i = .dialing generation →
      Taken s (.dialed i conn)
        ({ s with returned := insert conn s.returned }.become i (.dialed generation conn))
  | abandon {i generation : ℕ} {conn : C} : s.agents i = .dialed generation conn →
      Taken s (.abandon i) (s.become i (.closing {conn} false))
  | install {i generation : ℕ} {conn : C} : s.agents i = .dialed generation conn →
      Taken s (.install i) (s.install i generation conn)
  | release {i : ℕ} {conn : C} {reuse : Bool} {isAlive : C → Bool} : s.agents i = .holding conn →
      Taken s (.release i reuse isAlive) (s.release i conn reuse isAlive)
  | invalidate {i : ℕ} {conn : C} : s.agents i = .holding conn →
      Taken s (.invalidate i) (s.invalidate i conn)
  | reset {i : ℕ} : s.agents i = .rest → Taken s (.reset i) (s.reset i)
  | close {i : ℕ} : s.agents i = .rest → Taken s (.close i) (s.close i)
  | closeConn {i : ℕ} {conns : Finset C} {retry : Bool} {conn : C} :
      s.agents i = .closing conns retry → conn ∈ conns →
      Taken s (.closeConn i conn) ({ s with closedConns := insert conn s.closedConns }.become i
          (.closing (conns.erase conn) retry))
  | finish {i : ℕ} {retry : Bool} : s.agents i = .closing ∅ retry →
      Taken s (.finish i) (s.become i (if retry then .acquiring else .rest))

lemma step_cases (s : State C) (action : Action C) :
    step s action = s ∨ Taken s action (step s action) := by
  cases action with
  | closeConn i conn =>
    rw [step]
    split
    · split_ifs with hmem
      · exact .inr (.closeConn ‹_› hmem)
      · exact .inl rfl
    · exact .inl rfl
  | finish i =>
    rw [step]
    split
    · rename_i conns retry hag
      by_cases hemp : conns = ∅
      · rw [if_pos hemp]
        exact .inr (.finish (hemp ▸ hag))
      · exact .inl (if_neg hemp)
    · exact .inl rfl
  | _ =>
    rw [step]
    split
    · exact .inr (by constructor; assumption)
    · exact .inl rfl

/-! ### One connection -/

inductive Role where
  | none
  | dialed
  | holding
  | closing
deriving DecidableEq

def Role.Passive (role : Role) : Prop := role = .none ∨ role = .closing

def Agent.role (conn : C) : Agent C → Role
  | .dialed _ conn' => if conn' = conn then .dialed else .none
  | .holding conn' => if conn' = conn then .holding else .none
  | .closing conns _ => if conn ∈ conns then .closing else .none
  | _ => .none

@[ext]
structure View where
  roles : ℕ → Role
  tracked : Prop
  idle : ℕ
  element : Prop
  returned : Prop
  installed : Option ℕ
  closed : Prop

def State.view (s : State C) (conn : C) : View where
  roles i := (s.agents i).role conn
  tracked := conn ∈ s.state.all
  idle := s.state.idle.count conn
  element := conn ∈ s.state.idleElements
  returned := conn ∈ s.returned
  installed := s.installed conn
  closed := conn ∈ s.closedConns

inductive Phase (generation : ℕ) (v : View) : Prop
  | unknown : (∀ j, v.roles j = .none) → ¬v.tracked → v.idle = 0 → ¬v.element → ¬v.returned →
      v.installed = none → ¬v.closed → Phase generation v
  | dialed (i : ℕ) : v.roles i = .dialed → (∀ j ≠ i, v.roles j = .none) → ¬v.tracked →
      v.idle = 0 → ¬v.element → v.returned → v.installed = none → ¬v.closed → Phase generation v
  | idle : (∀ j, v.roles j = .none) → v.tracked → v.idle = 1 → v.element → v.returned →
      v.installed = some generation → ¬v.closed → Phase generation v
  | held (i : ℕ) : v.roles i = .holding → (∀ j ≠ i, v.roles j = .none) → v.tracked →
      v.idle = 0 → ¬v.element → v.returned → v.installed = some generation → ¬v.closed →
      Phase generation v
  /-- It is held, but the pool has been reset or closed. -/
  | stale (i : ℕ) : v.roles i = .holding → (∀ j ≠ i, (v.roles j).Passive) →
      ¬v.tracked → v.idle = 0 → ¬v.element → v.returned →
      (∃ g ≤ generation, v.installed = some g) → Phase generation v
  /-- It has been closed, or will be closed or forgotten. -/
  | gone : (∀ j, (v.roles j).Passive) → ¬v.tracked → v.idle = 0 →
      ¬v.element → v.returned → (∀ g, v.installed = some g → g ≤ generation) → Phase generation v

structure Good (s : State C) : Prop where
  phase : ∀ conn, Phase s.generation (s.view conn)
  closed : s.closed → s.state = {}

variable {s : State C} {i : ℕ}

lemma view_become (agent : Agent C) (conn : C) : (s.become i agent).view conn =
    { s.view conn with roles := update (s.view conn).roles i (agent.role conn) } := by
  ext j
  · by_cases h : j = i
    · subst h
      simp [view, become]
    · simp [view, become, h]
  all_goals rfl

variable {conn : C} {agent : Agent C}

lemma view_become_of_role (h : agent.role conn = (s.agents i).role conn) :
    (s.become i agent).view conn = s.view conn := by
  have hupdate : update (s.view conn).roles i (agent.role conn) = (s.view conn).roles := by
    rw [h]
    exact update_eq_self i _
  rw [view_become, hupdate]

variable {generation : ℕ} {t : State C}

lemma roles_of_dialed (h : s.agents i = .dialed generation conn) :
    (s.view conn).roles i = .dialed := by
  simp [view, h, role]

lemma roles_of_holding (h : s.agents i = .holding conn) : (s.view conn).roles i = .holding := by
  simp [view, h, role]

namespace Phase
variable {generation : ℕ} {v : View}
section
variable (h : Phase generation v)
include h

lemma dial (hnew : ¬v.returned) (i : ℕ) :
    Phase generation { v with roles := update v.roles i .dialed, returned := True } := by
  cases h with
  | unknown roles tracked idle element returned installed closed =>
    refine .dialed i (update_self _ _ _) (fun j hj => ?_) tracked idle element trivial
      installed closed
    exact (update_of_ne hj _ _).trans (roles j)
  | _ => contradiction

lemma of_dialed (hrole : v.roles i = .dialed) :
    (∀ j ≠ i, v.roles j = .none) ∧ ¬v.tracked ∧ v.idle = 0 ∧ ¬v.element ∧ v.returned ∧
    v.installed = none ∧ ¬v.closed := by
  cases h <;> grind [Role.Passive]

lemma of_holding (hrole : v.roles i = .holding) :
    (∀ j ≠ i, (v.roles j).Passive) ∧ v.idle = 0 ∧ ¬v.element ∧ v.returned ∧
    (∃ g ≤ generation, v.installed = some g) ∧
    (v.tracked → (∀ j ≠ i, v.roles j = .none) ∧ v.installed = some generation ∧ ¬v.closed) := by
  cases h <;> grind [Role.Passive]

lemma of_idle (hidle : v.idle ≠ 0) :
    (∀ j, v.roles j = .none) ∧ v.tracked ∧ v.idle = 1 ∧ v.element ∧ v.returned ∧
    v.installed = some generation ∧ ¬v.closed := by
  cases h <;> grind [Role.Passive]

lemma of_tracked (htrk : v.tracked) : v.installed = some generation := by
  cases h <;> grind

lemma le {g : ℕ} (hg : v.installed = some g) : g ≤ generation := by
  cases h <;> grind

end

variable {role : Role}

lemma passive_update {roles : ℕ → Role} (hrole : role.Passive)
    (hothers : ∀ j ≠ i, (roles j).Passive) (j : ℕ) :
    (update roles i role j).Passive :=
  (forall_update_iff roles fun _ => Role.Passive).2 ⟨hrole, hothers⟩ j

section
variable (h : Phase generation v)
include h

lemma abandon (hrole : v.roles i = .dialed) :
    Phase generation { v with roles := update v.roles i .closing } := by
  obtain ⟨hothers, htrk, hidle, helt, hret, hinst, -⟩ := h.of_dialed hrole
  refine .gone (fun j => ?_) htrk hidle helt hret fun g hg => ?_
  · exact passive_update (.inr rfl) (fun j hj => .inl (hothers j hj)) j
  · rw [hinst] at hg
    cases hg

lemma install (hrole : v.roles i = .dialed) : Phase generation { v with
      roles := update v.roles i .holding
      tracked := True
      installed := some generation } := by
  obtain ⟨hothers, -, hidle, helt, hret, -, hcl⟩ := h.of_dialed hrole
  exact .held i (update_self _ _ _)
    (fun j hj => (update_of_ne hj _ _).trans (hothers j hj)) trivial hidle helt
    hret rfl hcl

section
variable {i : ℕ} (hrole : v.roles i = .holding)
include hrole

lemma giveUp (htrk : ¬v.tracked) (hclosing : role.Passive) :
    Phase generation { v with roles := update v.roles i role } := by
  obtain ⟨hothers, hidle, helt, hret, ⟨g, hle, hinst⟩, -⟩ := h.of_holding hrole
  refine .gone (fun j => ?_) htrk hidle helt hret fun g' hg' => ?_
  · exact passive_update hclosing hothers j
  · obtain rfl : g = g' := Option.some.inj (hinst.symm.trans hg')
    exact hle

lemma remove : Phase generation { v with
      roles := update v.roles i .closing
      tracked := False
      element := False } := by
  obtain ⟨hothers, hidle, -, hret, ⟨g, hle, hinst⟩, -⟩ := h.of_holding hrole
  refine .gone (fun j => ?_) not_false hidle not_false hret fun g' hg' => ?_
  · exact passive_update (.inr rfl) hothers j
  · obtain rfl : g = g' := Option.some.inj (hinst.symm.trans hg')
    exact hle

lemma push (htrk : v.tracked) : Phase generation { v with
      roles := update v.roles i .none
      idle := v.idle + 1
      element := True } := by
  obtain ⟨-, hidle, -, hret, -, hheld⟩ := h.of_holding hrole
  obtain ⟨hothers, hinst, hcl⟩ := hheld htrk
  have hroles : ∀ j, update v.roles i .none j = .none :=
    (forall_update_iff v.roles fun _ => (· = .none)).2 ⟨rfl, hothers⟩
  exact .idle hroles htrk (by rw [hidle]) trivial hret hinst hcl

end

lemma pop (hidle : v.idle ≠ 0) (i : ℕ) : Phase generation { v with
      roles := update v.roles i .holding
      idle := v.idle - 1
      element := False } := by
  obtain ⟨hroles, htrk, hone, -, hret, hinst, hcl⟩ := h.of_idle hidle
  exact .held i (update_self _ _ _)
    (fun j hj => (update_of_ne hj _ _).trans (hroles j)) htrk (by rw [hone])
    not_false hret hinst hcl

lemma popDead (hidle : v.idle ≠ 0) (i : ℕ) : Phase generation { v with
      roles := update v.roles i .closing
      tracked := False
      idle := v.idle - 1
      element := False } := by
  obtain ⟨hroles, -, hone, -, hret, hinst, -⟩ := h.of_idle hidle
  refine .gone (fun j => ?_) not_false (by rw [hone]) not_false hret fun g hg => ?_
  · exact passive_update (.inr rfl) (fun j _ => .inl (hroles j)) j
  · exact (Option.some.inj (hg.symm.trans hinst)).le

lemma retire (hrole : v.roles i = .none) {generation' : ℕ}
    (hle : generation ≤ generation') (role : Role) (hclosing : v.tracked → role = .closing)
    (hnone : ¬v.tracked → role = .none) :
    Phase generation' { v with
      roles := update v.roles i role
      tracked := False
      idle := 0
      element := False } := by
  by_cases htrk : v.tracked
  · obtain rfl := hclosing htrk
    have hne : ∀ {k : ℕ}, v.roles k = .holding → k ≠ i := by
      rintro k hk rfl
      rw [hrole] at hk
      cases hk
    cases h with
    | idle roles _ _ _ returned installed _ =>
      refine .gone (passive_update (.inr rfl) fun j _ => .inl (roles j))
        not_false rfl not_false returned fun g hg => ?_
      exact (Option.some.inj (hg.symm.trans installed)).le.trans hle
    | held k hk others _ _ _ returned installed _ =>
      refine .stale k ((update_of_ne (hne hk) _ _).trans hk) (fun j hj => ?_) not_false
        rfl not_false returned ⟨generation, hle, installed⟩
      by_cases hji : j = i
      · exact .inr (by simp [hji])
      · exact .inl (by simpa [hji] using others j hj)
    | _ => contradiction
  · obtain rfl := hnone htrk
    have hroles : update v.roles i .none = v.roles := by
      rw [← hrole]
      exact update_eq_self i _
    rw [hroles]
    cases h with
    | unknown roles _ _ _ returned installed closed =>
      exact .unknown roles not_false rfl not_false returned installed closed
    | dialed k hk others _ _ _ returned installed closed =>
      exact .dialed k hk others not_false rfl not_false returned installed closed
    | stale k hk others _ _ _ returned installed =>
      obtain ⟨g, hg, hinst⟩ := installed
      exact .stale k hk others not_false rfl not_false returned ⟨g, hg.trans hle, hinst⟩
    | gone roles _ _ _ returned installed =>
      exact .gone roles not_false rfl not_false returned fun g hg => (installed g hg).trans hle
    | _ => contradiction

lemma close (hrole : v.roles i = .closing) :
    Phase generation { v with roles := update v.roles i .none, closed := True } := by
  cases h with
  | stale k hk others tracked idle element returned installed =>
    have hne : k ≠ i := by
      rintro rfl
      rw [hrole] at hk
      cases hk
    refine .stale k ((update_of_ne hne _ _).trans hk) (fun j hj => ?_) tracked idle
      element returned installed
    by_cases hji : j = i
    · exact .inl (by simp [hji])
    · simpa [hji] using others j hj
  | gone roles tracked idle element returned installed =>
    exact .gone (passive_update (.inl rfl) fun j _ => roles j) tracked idle
      element returned installed
  | _ => grind [Role.Passive]

end

end Phase

namespace Good

lemma become (h : Good s)
    (hrole : ∀ conn, agent.role conn = (s.agents i).role conn) : Good (s.become i agent) := by
  refine ⟨fun conn => ?_, h.closed⟩
  rw [view_become_of_role (hrole conn)]
  exact h.phase conn

lemma of_one (h : Good s) (conn : C)
    (hgen : t.generation = s.generation) (hagents : t.agents = s.agents)
    (hcl : t.closed → t.state = {})
    (hview : ∀ conn' ≠ conn, t.view conn' = s.view conn')
    (hrole : ∀ conn' ≠ conn, agent.role conn' = (s.agents i).role conn')
    (hph : Phase s.generation { t.view conn with
      roles := update (t.view conn).roles i (agent.role conn) }) :
    Good (t.become i agent) := by
  refine ⟨fun conn' => ?_, hcl⟩
  change Phase t.generation _
  rw [hgen]
  by_cases hconn : conn' = conn
  · rw [hconn, view_become]
    exact hph
  · rw [view_become_of_role (by rw [hagents, hrole conn' hconn]), hview conn' hconn]
    exact h.phase conn'

lemma role_eq {agent agent' : Agent C} (h : ∀ conn' ≠ conn, agent.role conn' = .none)
    (h' : ∀ conn' ≠ conn, agent'.role conn' = .none) :
    ∀ conn' ≠ conn, agent.role conn' = agent'.role conn' :=
  fun conn' hconn => (h conn' hconn).trans (h' conn' hconn).symm

lemma role_holding : ∀ conn' ≠ conn, (holding conn).role conn' = .none :=
  fun _ hconn => if_neg hconn.symm

variable {generation : ℕ}

lemma role_dialed : ∀ conn' ≠ conn, (dialed generation conn).role conn' = .none :=
  fun _ hconn => if_neg hconn.symm

variable {retry : Bool}

lemma role_closing : ∀ conn' ≠ conn, (closing {conn} retry).role conn' = .none :=
  fun _ hconn => if_neg fun hmem => hconn (Finset.mem_singleton.1 hmem)

section
variable (h : Good s)
include h

lemma acquireOrdered (hag : s.agents i = .acquiring) (isAlive : C → Bool) :
    Good (s.acquireOrdered i isAlive) := by
  have hnone : ∀ conn, (s.agents i).role conn = .none := by
    intro conn
    rw [hag]
    rfl
  unfold State.acquireOrdered
  split_ifs with hcl
  · exact h.become fun conn => (hnone conn).symm
  cases hidle : s.state.idle with
  | nil => exact h.become fun conn => (hnone conn).symm
  | cons conn idle =>
    have hwaits : (s.view conn).idle ≠ 0 := by simp [view, hidle]
    dsimp only
    split_ifs
    · refine h.of_one conn rfl rfl (fun hc => absurd hc hcl) (fun conn' hconn => ?_)
        (role_eq role_holding fun conn' _ => hnone conn') ?_
      · ext <;> simp [view, hidle, hconn, count_cons_of_ne hconn.symm]
      · have hph := (h.phase conn).pop hwaits i
        convert hph using 1
        ext <;> simp [view, hidle, role]
    · refine h.of_one conn rfl rfl (fun hc => absurd hc hcl) (fun conn' hconn => ?_)
        (role_eq role_closing fun conn' _ => hnone conn') ?_
      · ext <;> simp [view, hidle, hconn, count_cons_of_ne hconn.symm]
      · have hph := (h.phase conn).popDead hwaits i
        convert hph using 1
        ext <;> simp [view, hidle, role]

lemma dialed (hag : s.agents i = .dialing generation) (hfresh : conn ∉ s.returned) :
    Good ({ s with returned := insert conn s.returned }.become i (.dialed generation conn)) := by
  refine h.of_one conn rfl rfl h.closed (fun conn' hconn => ?_)
    (role_eq role_dialed fun conn' _ => by rw [hag]; rfl) ?_
  · ext <;> simp [view, hconn]
  · convert (h.phase conn).dial hfresh i using 1
    ext <;> simp [view, role]

lemma abandon (hag : s.agents i = .dialed generation conn) :
    Good (s.become i (.closing {conn} false)) := by
  refine h.of_one conn rfl rfl h.closed (fun _ _ => rfl)
    (role_eq role_closing (hag ▸ role_dialed)) ?_
  convert (h.phase conn).abandon (roles_of_dialed hag) using 1
  simp [role]

lemma install
    (hag : s.agents i = .dialed generation conn) : Good (s.install i generation conn) := by
  unfold State.install
  split_ifs with hcl hgen
  · exact h.abandon hag
  · exact h.abandon hag
  · rw [not_not] at hgen
    refine h.of_one conn rfl rfl (fun hc => absurd hc hcl) (fun conn' hconn => ?_)
      (role_eq role_holding (hag ▸ role_dialed)) ?_
    · ext <;> simp [view, hconn]
    · convert (h.phase conn).install (roles_of_dialed hag) using 1
      ext <;> simp [view, role, hgen]

lemma giveUp (hag : s.agents i = .holding conn) (htrk : conn ∉ s.state.all) (agent : Agent C)
    (hag' : ∀ conn' ≠ conn, agent.role conn' = .none) (hpassive : (agent.role conn).Passive) :
    Good (s.become i agent) := by
  exact h.of_one conn rfl rfl h.closed (fun _ _ => rfl) (role_eq hag' (hag ▸ role_holding))
    ((h.phase conn).giveUp (roles_of_holding hag) htrk hpassive)

lemma removeConn (hag : s.agents i = .holding conn) (hcl : ¬s.closed) :
    Good ({ s with state := removeConn s.state conn }.become i (.closing {conn} false)) := by
  have hrole := roles_of_holding hag
  obtain ⟨-, -, helt, -⟩ := (h.phase conn).of_holding hrole
  -- a connection that is held does not wait
  have hst : State.removeConn s.state conn =
      ⟨s.state.all.erase conn, s.state.idle, s.state.idleElements.erase conn⟩ := by
    rw [State.removeConn, if_neg (show conn ∉ s.state.idleElements from helt)]
  rw [hst]
  refine h.of_one conn rfl rfl (fun hc => absurd hc hcl) (fun conn' hconn => ?_)
    (role_eq role_closing (hag ▸ role_holding)) ?_
  · ext <;> simp [view, hconn]
  · convert (h.phase conn).remove hrole using 1
    ext <;> simp [view, role]

lemma not_tracked (hcl : s.closed) (conn : C) : conn ∉ s.state.all := by
  rw [h.closed hcl]
  exact notMem_empty conn

lemma release (hag : s.agents i = .holding conn) (reuse : Bool)
    (isAlive : C → Bool) : Good (s.release i conn reuse isAlive) := by
  have hrole := roles_of_holding hag
  have hclosing : ((closing {conn} false).role conn).Passive :=
    .inr (if_pos (Finset.mem_singleton_self conn))
  unfold State.release
  split_ifs with hcl htrk hkeep hidle
  · exact h.giveUp hag (h.not_tracked hcl conn) _ role_closing hclosing
  · exact h.removeConn hag hcl
  · obtain ⟨-, -, helt, -⟩ := (h.phase conn).of_holding hrole
    exact absurd hidle helt
  · refine h.of_one conn rfl rfl (fun hc => absurd hc hcl) (fun conn' hconn => ?_)
      (role_eq (fun _ _ => rfl) (hag ▸ role_holding)) ?_
    · ext <;> simp [view, hconn, hconn.symm]
    · convert (h.phase conn).push hrole htrk using 1
      ext <;> simp [view, role]
  · exact h.giveUp hag htrk _ role_closing hclosing

lemma invalidate (hag : s.agents i = .holding conn) : Good (s.invalidate i conn) := by
  unfold State.invalidate
  split_ifs with hcl htrk
  · exact h.giveUp hag (h.not_tracked hcl conn) _ role_closing
      (.inr (if_pos (Finset.mem_singleton_self conn)))
  · exact h.removeConn hag hcl
  · exact h.giveUp hag htrk .rest (fun _ _ => rfl) (.inl rfl)

lemma retire (hag : s.agents i = .rest) (hle : s.generation ≤ generation) (closed : Bool) :
    Good ({ s with state := {}, generation, closed }.become i (.closing s.state.all false)) := by
  refine ⟨fun conn => ?_, fun _ => rfl⟩
  have hrole : (s.view conn).roles i = .none := by simp [view, hag, role]
  have hph := (h.phase conn).retire hrole hle ((closing s.state.all false).role conn)
    (fun htrk => if_pos htrk) fun htrk => if_neg htrk
  change Phase generation _
  rw [view_become]
  convert hph using 1
  ext <;> simp [view]

lemma reset (hag : s.agents i = .rest) : Good (s.reset i) := by
  rw [State.reset]
  split_ifs
  · exact h
  · exact h.retire hag (Nat.le_succ _) _

lemma close (hag : s.agents i = .rest) : Good (s.close i) := by
  rw [State.close]
  split_ifs
  · exact h
  · exact h.retire hag le_rfl _

lemma closeConn {conns : Finset C} (hag : s.agents i = .closing conns retry) (hmem : conn ∈ conns) :
    Good ({ s with closedConns := insert conn s.closedConns }.become i
      (.closing (conns.erase conn) retry)) := by
  have hrole : (s.view conn).roles i = .closing := by simp [view, hag, role, hmem]
  refine h.of_one conn rfl rfl h.closed (fun conn' hconn => ?_) (fun conn' hconn => ?_) ?_
  · ext <;> simp [view, hconn]
  · simp [hag, role, hconn]
  · convert (h.phase conn).close hrole using 1
    ext <;> simp [view, role]

lemma finish (hag : s.agents i = .closing ∅ retry) :
    Good (s.become i (if retry then .acquiring else .rest)) := by
  refine h.become fun conn => ?_
  cases retry <;> simp [hag, role]

end

end Good

variable {action : Action C}

lemma Good.step (h : Good s) (hfresh : Fresh s action) : Good (OrderedPool.step s action) := by
  obtain hsame | htaken := step_cases s action
  · rw [hsame]
    exact h
  · generalize OrderedPool.step s action = t at htaken ⊢
    cases htaken with
    | acquire hag => exact h.become fun conn => by rw [hag]; rfl
    | acquireOrdered hag => exact h.acquireOrdered hag _
    | fail hag => exact h.become fun conn => by rw [hag]; rfl
    | dialed hag => exact h.dialed hag hfresh
    | abandon hag => exact h.abandon hag
    | install hag => exact h.install hag
    | release hag => exact h.release hag _ _
    | invalidate hag => exact h.invalidate hag
    | reset hag => exact h.reset hag
    | close hag => exact h.close hag
    | closeConn hag hmem => exact h.closeConn hag hmem
    | finish hag => exact h.finish hag

lemma good_start : Good ({} : State C) where
  phase _ := .unknown (fun _ => rfl) (notMem_empty _) rfl (notMem_empty _)
    (notMem_empty _) rfl (notMem_empty _)
  closed _ := rfl

def Reachable (s : State C) : Prop := Run step Fresh {} s

lemma Reachable.good (h : Reachable s) : Good s :=
  h.invariant good_start fun _ _ hs hfresh => hs.step hfresh

/-! ### Connections over a run -/

/-- What does not change in later states. -/
structure Later (s t : State C) : Prop where
  generation : s.generation ≤ t.generation
  closed : s.closed → t.closed
  installed : ∀ conn g, s.installed conn = some g → t.installed conn = some g
  closedConns : s.closedConns ⊆ t.closedConns

omit [DecidableEq C] in
lemma Later.refl (s : State C) : Later s s := ⟨le_rfl, id, fun _ _ => id, subset_rfl⟩

omit [DecidableEq C] in
lemma Later.trans {s u : State C} (h : Later s t) (h' : Later t u) : Later s u :=
  ⟨h.generation.trans h'.generation, h'.closed ∘ h.closed,
    fun conn g hg => h'.installed conn g (h.installed conn g hg),
    h.closedConns.trans h'.closedConns⟩

omit [DecidableEq C] in
lemma Later.of_eq (hgen : t.generation = s.generation)
    (hcl : t.closed = s.closed) (hinst : t.installed = s.installed)
    (hclosedConns : s.closedConns ⊆ t.closedConns) : Later s t :=
  ⟨hgen.ge, fun h => hcl.trans h, fun conn g hg => by rw [hinst, hg], hclosedConns⟩

lemma Good.later_install (h : Good s)
    (hag : s.agents i = .dialed generation conn) : Later s (s.install i generation conn) := by
  obtain ⟨-, -, -, -, -, hnone, -⟩ := (h.phase conn).of_dialed (roles_of_dialed hag)
  unfold State.install
  split_ifs
  · exact .of_eq rfl rfl rfl subset_rfl
  · exact .of_eq rfl rfl rfl subset_rfl
  · refine ⟨le_rfl, id, fun conn' g hg => ?_, subset_rfl⟩
    have hne : conn' ≠ conn := by
      rintro rfl
      cases hnone.symm.trans hg
    exact (update_of_ne hne _ _).trans hg

lemma Good.later_step (h : Good s) (action : Action C) : Later s (OrderedPool.step s action) := by
  obtain hsame | htaken := step_cases s action
  · rw [hsame]
    exact .refl s
  · generalize OrderedPool.step s action = t at htaken ⊢
    cases htaken with
    | acquireOrdered =>
      unfold State.acquireOrdered
      split_ifs
      · exact .of_eq rfl rfl rfl subset_rfl
      · split
        · exact .of_eq rfl rfl rfl subset_rfl
        · dsimp only
          split_ifs <;> exact .of_eq rfl rfl rfl subset_rfl
    | install hag => exact h.later_install hag
    | release =>
      unfold State.release
      split_ifs <;> exact .of_eq rfl rfl rfl subset_rfl
    | invalidate =>
      unfold State.invalidate
      split_ifs <;> exact .of_eq rfl rfl rfl subset_rfl
    | reset =>
      unfold State.reset
      split_ifs
      · exact .refl s
      · exact ⟨Nat.le_succ _, id, fun _ _ => id, subset_rfl⟩
    | close =>
      unfold State.close
      split_ifs
      · exact .refl s
      · exact ⟨le_rfl, fun _ => rfl, fun _ _ => id, subset_rfl⟩
    | closeConn => exact .of_eq rfl rfl rfl (subset_insert _ _)
    | _ => exact .of_eq rfl rfl rfl subset_rfl

lemma Good.run (h : Good s) (hrun : Run OrderedPool.step Fresh s t) : Good t ∧ Later s t := by
  refine hrun.invariant (I := fun t => Good t ∧ Later s t) ⟨h, .refl s⟩ ?_
  rintro t action ⟨ht, hlater⟩ hfresh
  exact ⟨ht.step hfresh, hlater.trans (ht.later_step action)⟩

def Outdated (s : State C) (conn : C) : Prop :=
  ∃ g, s.installed conn = some g ∧ (s.closed ∨ g < s.generation)

omit [DecidableEq C] in
lemma Outdated.later (h : Outdated s conn) (hlater : Later s t) : Outdated t conn := by
  obtain ⟨g, hg, hold⟩ := h
  exact ⟨g, hlater.installed conn g hg,
    hold.imp hlater.closed fun hlt => hlt.trans_le hlater.generation⟩

def Action.Resets (s : State C) (action : Action C) : Prop :=
  ∃ i, s.agents i = .rest ∧ (action = .reset i ∨ action = .close i)

lemma Good.outdated_of_resets (h : Good s) (hreset : action.Resets s)
    (hinst : s.installed conn ≠ none) :
    Outdated (OrderedPool.step s action) conn := by
  obtain ⟨g, hg⟩ := Option.ne_none_iff_exists'.1 hinst
  have hle : g ≤ s.generation := (h.phase conn).le hg
  by_cases hcl : s.closed
  · exact .later ⟨g, hg, .inl hcl⟩ (h.later_step action)
  · obtain ⟨i, hag, rfl | rfl⟩ := hreset
    · refine ⟨g, (h.later_step _).installed conn g hg, .inr ?_⟩
      simp only [OrderedPool.step, hag, State.reset, if_neg hcl]
      exact Nat.lt_succ_of_le hle
    · refine ⟨g, (h.later_step _).installed conn g hg, .inl ?_⟩
      simp only [OrderedPool.step, hag, State.close, if_neg hcl]
      rfl

lemma Good.not_tracked_of_outdated (h : Good s) (hold : Outdated s conn) : conn ∉ s.state.all := by
  obtain ⟨g, hg, hcl | hlt⟩ := hold
  · exact h.not_tracked hcl conn
  · intro htrk
    have hinst := (h.phase conn).of_tracked htrk
    rw [show s.installed conn = some s.generation from hinst] at hg
    exact absurd (Option.some.inj hg) hlt.ne'

lemma Good.not_idle_of_outdated (h : Good s) (hold : Outdated s conn) : conn ∉ s.state.idle := by
  intro hidle
  have hwaits : (s.view conn).idle ≠ 0 := (count_pos_iff.2 hidle).ne'
  exact h.not_tracked_of_outdated hold ((h.phase conn).of_idle hwaits).2.1

def HandsOut (s : State C) (action : Action C) (conn : C) : Prop :=
  ∃ i, s.agents i ≠ .holding conn ∧ (step s action).agents i = .holding conn

variable {j : ℕ}

def Action.goroutine : Action C → ℕ
  | .acquire i | .acquireOrdered i _ | .fail i | .dialed i _ | .abandon i | .install i
  | .release i _ _ | .invalidate i | .reset i | .close i | .closeConn i _ | .finish i => i

/-- A goroutine changes the pool and goes on. A connection it gets was waiting or just dialed. -/
lemma Taken.eq_become (h : Taken s action t) : t = s ∨ ∃ (u : State C) (agent : Agent C),
    t = u.become action.goroutine agent ∧ u.agents = s.agents ∧ ∀ conn, agent = .holding conn →
    conn ∈ s.state.idle ∨ ∃ g, s.agents action.goroutine = .dialed g conn := by
  cases h with
  | acquireOrdered =>
    unfold State.acquireOrdered
    split_ifs
    · exact .inr ⟨_, _, rfl, rfl, nofun⟩
    · split
      · exact .inr ⟨_, _, rfl, rfl, nofun⟩
      · rename_i conn idle hidle
        split_ifs
        · refine .inr ⟨_, _, rfl, rfl, fun conn' hconn => .inl ?_⟩
          rw [hidle, ← holding.inj hconn]
          exact mem_cons_self
        · exact .inr ⟨_, _, rfl, rfl, nofun⟩
  | install hag =>
    unfold State.install
    split_ifs
    · exact .inr ⟨_, _, rfl, rfl, nofun⟩
    · exact .inr ⟨_, _, rfl, rfl, nofun⟩
    · exact .inr ⟨_, _, rfl, rfl, fun conn hconn => .inr ⟨_, holding.inj hconn ▸ hag⟩⟩
  | release =>
    unfold State.release
    split_ifs <;> exact .inr ⟨_, _, rfl, rfl, nofun⟩
  | invalidate =>
    unfold State.invalidate
    split_ifs <;> exact .inr ⟨_, _, rfl, rfl, nofun⟩
  | reset =>
    unfold State.reset
    split_ifs
    · exact .inl rfl
    · exact .inr ⟨_, _, rfl, rfl, nofun⟩
  | close =>
    unfold State.close
    split_ifs
    · exact .inl rfl
    · exact .inr ⟨_, _, rfl, rfl, nofun⟩
  | @finish i retry => cases retry <;> exact .inr ⟨_, _, rfl, rfl, nofun⟩
  | _ => exact .inr ⟨_, _, rfl, rfl, nofun⟩

lemma Taken.agents_of_ne (h : Taken s action t)
    (hj : j ≠ action.goroutine) : t.agents j = s.agents j := by
  obtain rfl | ⟨u, agent, rfl, hagents, -⟩ := h.eq_become
  · rfl
  · exact (update_of_ne hj _ _).trans (congrFun hagents j)

lemma Taken.of_handsOut (h : Taken s action t)
    (hbef : s.agents j ≠ .holding conn) (hafter : t.agents j = .holding conn) :
    conn ∈ s.state.idle ∨ ∃ generation, s.agents j = .dialed generation conn := by
  by_cases hj : j = action.goroutine
  · subst hj
    obtain rfl | ⟨u, agent, rfl, -, hgets⟩ := h.eq_become
    · exact absurd hafter hbef
    · exact hgets conn (by simpa [become] using hafter)
  · exact absurd ((h.agents_of_ne hj).symm.trans hafter) hbef

lemma Good.not_handsOut (h : Good s) (hold : Outdated s conn) (action : Action C) :
    ¬HandsOut s action conn := by
  rintro ⟨j, hbef, hafter⟩
  obtain hsame | htaken := step_cases s action
  · rw [hsame] at hafter
    exact hbef hafter
  · obtain hidle | ⟨generation, hdialed⟩ := htaken.of_handsOut hbef hafter
    · exact h.not_idle_of_outdated hold hidle
    · obtain ⟨g, hg, -⟩ := hold
      obtain ⟨-, -, -, -, -, hnone, -⟩ := (h.phase conn).of_dialed (roles_of_dialed hdialed)
      cases hnone.symm.trans hg

/-! ### Closing -/

def Closes (s : State C) (i : ℕ) (conn : C) : Prop :=
  s.agents i = .closing {conn} false ∨ conn ∈ s.closedConns

lemma Good.closes_step (h : Good s) (hcloses : Closes s i conn) (action : Action C) :
    Closes (OrderedPool.step s action) i conn := by
  obtain hag | hcl := hcloses
  · obtain hsame | htaken := step_cases s action
    · rw [hsame]
      exact .inl hag
    · by_cases hi : i = action.goroutine
      · generalize OrderedPool.step s action = t at htaken ⊢
        cases htaken with
        | closeConn hag' hmem =>
          obtain rfl : i = _ := hi
          rw [hag] at hag'
          obtain ⟨rfl, rfl⟩ := closing.inj hag'
          rw [Finset.mem_singleton.1 hmem]
          exact .inr (mem_insert_self _ _)
        | finish hag' =>
          obtain rfl : i = _ := hi
          rw [hag] at hag'
          exact absurd (closing.inj hag').1 (singleton_ne_empty conn)
        | _ hag' =>
          obtain rfl : i = _ := hi
          rw [hag] at hag'
          cases hag'
      · exact .inl ((htaken.agents_of_ne hi).trans hag)
  · exact .inr ((h.later_step action).closedConns hcl)

lemma Good.closes_run (h : Good s) (hcloses : Closes s i conn)
    (hrun : Run OrderedPool.step Fresh s t) : Closes t i conn := by
  have hboth : Good t ∧ Closes t i conn := by
    refine hrun.invariant (I := fun t => Good t ∧ Closes t i conn) ⟨h, hcloses⟩ ?_
    rintro t action ⟨ht, ht'⟩ hfresh
    exact ⟨ht.step hfresh, ht.closes_step ht' action⟩
  exact hboth.2

lemma Good.closes_release (h : Good s) (hold : Outdated s conn)
    (hag : s.agents i = .holding conn) (reuse : Bool) (isAlive : C → Bool) :
    Closes (OrderedPool.step s (.release i reuse isAlive)) i conn := by
  have hstep : OrderedPool.step s (.release i reuse isAlive) =
      s.become i (.closing {conn} false) := by
    simp only [OrderedPool.step, hag, State.release]
    by_cases hcl : s.closed
    · rw [if_pos hcl]
    · rw [if_neg hcl, if_pos (h.not_tracked_of_outdated hold)]
  rw [hstep]
  exact .inl (update_self _ _ _)

lemma Closes.closeConn (h : Closes s i conn) : conn ∈ (step s (.closeConn i conn)).closedConns := by
  obtain hag | hcl := h
  · simp only [step, hag, if_pos (Finset.mem_singleton_self conn)]
    exact Finset.mem_insert_self _ _
  · rw [step]
    split
    · split_ifs
      · exact mem_insert_self _ _
      · exact hcl
    · exact hcl

lemma Good.eq_of_holding (h : Good s) (hi : s.agents i = .holding conn)
    (hj : s.agents j = .holding conn) : i = j := by
  obtain ⟨hothers, -⟩ := (h.phase conn).of_holding (roles_of_holding hi)
  by_contra hne
  have hpassive := hothers j (Ne.symm hne)
  rw [roles_of_holding hj] at hpassive
  simp [Role.Passive] at hpassive

lemma Good.idle_nodup (h : Good s) : s.state.idle.Nodup := by
  refine nodup_iff_count_le_one.2 fun conn => ?_
  by_cases hwaits : (s.view conn).idle = 0
  · exact hwaits.le.trans (Nat.zero_le 1)
  · exact ((h.phase conn).of_idle hwaits).2.2.1.le

lemma Good.of_mem_idle (h : Good s) (hidle : conn ∈ s.state.idle) :
    conn ∈ s.state.all ∧ conn ∉ s.closedConns := by
  have hwaits : (s.view conn).idle ≠ 0 := (count_pos_iff.2 hidle).ne'
  obtain ⟨-, htrk, -, -, -, -, hcl⟩ := (h.phase conn).of_idle hwaits
  exact ⟨htrk, hcl⟩

/-- A connection is held by one goroutine at most, and what waits is tracked and open. After a reset
no older connection is handed out or pooled. -/
theorem safe_of_reachable (h : Reachable s) :
    (∀ i j conn, s.agents i = .holding conn → s.agents j = .holding conn → i = j) ∧
    s.state.idle.Nodup ∧
    (∀ conn ∈ s.state.idle, conn ∈ s.state.all ∧ conn ∉ s.closedConns) ∧
    ∀ action : Action C, action.Resets s → ∀ conn, s.installed conn ≠ none →
      ∀ t, Run step Fresh (step s action) t → (∀ action', ¬HandsOut t action' conn) ∧
        ∀ i reuse isAlive, t.agents i = .holding conn →
          ∀ u, Run step Fresh (step t (.release i reuse isAlive)) u →
            conn ∉ u.state.idle ∧ Closes u i conn ∧
              conn ∈ (step u (.closeConn i conn)).closedConns := by
  have hgood := h.good
  refine ⟨fun i j conn => hgood.eq_of_holding, hgood.idle_nodup, fun conn => hgood.of_mem_idle, ?_⟩
  intro action hreset conn hinst t hrun
  have hfresh : Fresh s action := by
    obtain ⟨i, -, rfl | rfl⟩ := hreset <;> trivial
  obtain ⟨ht, hlater⟩ := (hgood.step hfresh).run hrun
  have hold : Outdated t conn := (hgood.outdated_of_resets hreset hinst).later hlater
  refine ⟨ht.not_handsOut hold, fun i reuse isAlive hag u hrun' => ?_⟩
  have hrelease : Good (step t (.release i reuse isAlive)) := ht.step trivial
  obtain ⟨hu, hlater'⟩ := hrelease.run hrun'
  have hcloses : Closes u i conn :=
    hrelease.closes_run (ht.closes_release hold hag reuse isAlive) hrun'
  have hold' : Outdated u conn := (hold.later (ht.later_step _)).later hlater'
  exact ⟨hu.not_idle_of_outdated hold', hcloses, hcloses.closeConn⟩

theorem safe_of_reachable_reset :
    let actions : List (Action ℕ) :=
      [.acquire 0, .acquireOrdered 0 fun _ => true, .dialed 0 7, .install 0,
        .release 0 true fun _ => true, .acquire 1, .acquireOrdered 1 fun _ => true]
    let s := actions.foldl step {}
    let t := step s (.reset 0)
    let u := step t (.release 1 true fun _ => true)
    s.agents 1 = .holding 7 ∧ s.installed 7 = some 0 ∧ t.agents 1 = .holding 7 ∧
      7 ∉ u.state.idle ∧ Closes u 1 7 ∧ 7 ∈ (step u (.closeConn 1 7)).closedConns := by
  intro actions s t u
  have hrun : Reachable s := Run.start.foldl (by decide)
  obtain ⟨-, -, -, hreset⟩ := safe_of_reachable hrun
  have hinst : s.installed 7 = some 0 := by decide
  obtain ⟨-, hrelease⟩ := hreset (.reset 0) ⟨0, rfl, .inl rfl⟩ 7 (by simp [hinst]) t .start
  exact ⟨rfl, hinst, rfl, hrelease 1 true (fun _ => true) rfl u .start⟩

/-- No slot of the pool is lost: a tracked connection waits, or some goroutine holds it. -/
theorem idle_or_holding (h : Reachable s) :
    ∀ conn ∈ s.state.all, conn ∈ s.state.idle ∨ ∃ i, s.agents i = .holding conn := by
  intro conn htracked
  cases h.good.phase conn with
  | idle _ _ hidle => exact .inl (count_pos_iff.1 (Nat.one_pos.trans_eq hidle.symm))
  | held i hrole =>
    refine .inr ⟨i, ?_⟩
    simp only [State.view, Agent.role] at hrole
    grind
  | _ => contradiction

theorem idle_or_holding_installed :
    let s := [.acquire 0, .acquireOrdered 0 fun _ => true, .dialed 0 7, .install 0].foldl step {}
    s.state.all = {7} ∧ (7 ∈ s.state.idle ∨ ∃ i, s.agents i = .holding 7) :=
  ⟨rfl, idle_or_holding (Run.start.foldl (by decide)) 7 (by decide)⟩

end SingBox.OrderedPool
