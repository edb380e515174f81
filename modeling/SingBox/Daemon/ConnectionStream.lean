import Mathlib
import SingBox.Lib.OrderedMap
import SingBox.Lib.Run

/-!
# The stream of connection events

A subscriber gets the connections there are, and then events, from a queue and from ticks. Snapshots
keep a connection from being reported twice. A `View` is what concerns one connection; its invariant
`Good` is kept by every step, and the whole state has it for all connections.
-/

namespace SingBox.Daemon.Stream
open List Function OrderedMap

/-- Bytes up and down. They are `int64` in the source; here they do not overflow, so the results are
about less than 2⁶³ bytes in each direction of a connection. -/
abbrev Counters := ℤ × ℤ

inductive Leaving where
  | no
  | deleted
  | listed
  | left
deriving DecidableEq

structure Conn where
  joined : Bool := false
  leaving : Leaving := .no
  counters : Counters := 0

inductive EventType where
  | new
  | closed
deriving DecidableEq

structure Snapshot where
  counters : Counters
  hadTraffic : Bool := false

/-- The snapshot of a connection after a tick, and the update to send. -/
def Snapshot.update (snapshot : Snapshot) (current : Counters) : Snapshot × Option Counters :=
  let delta := current - snapshot.counters
  if delta.1 < 0 ∨ delta.2 < 0 then
    (⟨current, false⟩, if snapshot.hadTraffic then some 0 else none)
  else if 0 < delta.1 ∨ 0 < delta.2 then (⟨current, true⟩, some delta)
  else if snapshot.hadTraffic then (⟨current, false⟩, some 0)
  else (snapshot, none)

lemma Snapshot.update_spec {current : Counters} (snapshot : Snapshot)
    (hle : snapshot.counters ≤ current) :
    (snapshot.update current).1.counters = current ∧
    snapshot.counters + (snapshot.update current).2.getD 0 = current := by
  obtain ⟨hup, hdown⟩ := hle
  unfold Snapshot.update
  dsimp only [Prod.fst_sub, Prod.snd_sub]
  split_ifs with hless hmore
  · omega
  · omega
  · exact ⟨rfl, add_sub_cancel _ _⟩
  · have hsame : snapshot.counters = current := Prod.ext (by omega) (by omega)
    exact ⟨rfl, (add_zero _).trans hsame⟩
  · have hsame : snapshot.counters = current := Prod.ext (by omega) (by omega)
    exact ⟨hsame, (add_zero _).trans hsame⟩

inductive Sent where
  /-- A connection with its counters, and whether it is closed already. -/
  | new (counters : Counters) (closed : Bool)
  | update (delta : Counters)
  | closed

inductive Phase where
  | off
  | initial (start visited : List ℕ)
  | idle
  | ticking (start visited : List ℕ)

def Phase.isInitial : Phase → Bool
  | .initial _ _ => true
  | _ => false

def Phase.visited? : Phase → Option (List ℕ)
  | .ticking _ visited => some visited
  | _ => none

structure State where
  born : ℕ := 0
  conns : ℕ → Conn := fun _ => {}
  closedConnections : List ℕ := []
  queue : List (ℕ × EventType) := []
  phase : Phase := .off
  snapshots : OrderedMap ℕ Snapshot := {}
  stream : List (ℕ × Sent) := []
  /-- The counters of a connection when they were loaded last. -/
  observed : ℕ → Counters := fun _ => 0

namespace State
variable (s : State) (id : ℕ)

def Active : Prop := id < s.born ∧ (s.conns id).leaving = .no

instance (id : ℕ) : Decidable (s.Active id) := inferInstanceAs (Decidable (_ ∧ _))

def setConn (conn : Conn) : State := { s with conns := update s.conns id conn }

variable (event : EventType)

/-- The event comes into the queue of the subscriber. In the source an observer does this in a
goroutine of its own; here there is no step between, and the subscriber may take the event at any
later one. -/
def emit : State :=
  match s.phase with
  | .off => s
  | _ => { s with queue := s.queue ++ [(id, event)] }

def send (sent : Sent) : State := { s with stream := s.stream ++ [(id, sent)] }

def traffic (n : ℕ × ℕ) : State :=
  s.setConn id { s.conns id with counters := (s.conns id).counters + (↑n.1, ↑n.2) }

def store : State := { s with born := s.born + 1 }

def emitNew : State :=
  if id < s.born ∧ (s.conns id).joined = false then
    (s.setConn id { s.conns id with joined := true }).emit id .new
  else s

def delete : State :=
  if s.Active id then s.setConn id { s.conns id with leaving := .deleted } else s

def closedConnectionsLimit : ℕ := 1000

def pushClosed : State :=
  if (s.conns id).leaving = .deleted then
    { s.setConn id { s.conns id with leaving := .listed } with
      closedConnections :=
        (if closedConnectionsLimit ≤ s.closedConnections.length then s.closedConnections.tail
          else s.closedConnections) ++ [id] }
  else s

def emitClosed : State :=
  if (s.conns id).leaving = .listed then
    (s.setConn id { s.conns id with leaving := .left }).emit id .closed
  else s

def connections : List ℕ := (range s.born).filter fun id => decide (s.Active id)

def subscribe : State :=
  match s.phase with
  | .off => { s with phase := .initial s.connections [] }
  | _ => s

def keep (snapshot : Snapshot) (observed : Counters) : State := { s with
    snapshots := s.snapshots.put id snapshot
    observed := update s.observed id observed }

variable (extra : ℕ × ℕ)

def reportInitial : State :=
  let reported := (s.conns id).counters
  let s := s.traffic id extra
  (s.keep id ⟨(s.conns id).counters, false⟩ (s.conns id).counters).send id (.new reported false)

def reportNew : State :=
  let loaded := (s.conns id).counters
  let s := s.traffic id extra
  (s.keep id ⟨loaded, false⟩ (s.conns id).counters).send id (.new (s.conns id).counters false)

def trafficUpdate : State :=
  match s.snapshots.get? id with
  | none => s.reportNew id extra
  | some snapshot =>
    let current := (s.conns id).counters
    let updated := snapshot.update current
    match updated.2 with
    | none => s.keep id updated.1 current
    | some delta => (s.keep id updated.1 current).send id (.update delta)

def visit : State :=
  if s.Active id then
    match s.phase with
    | .initial start visited =>
      if id ∈ visited then s
      else { s.reportInitial id extra with phase := .initial start (visited ++ [id]) }
    | .ticking start visited =>
      if id ∈ visited then s
      else { s.trafficUpdate id extra with phase := .ticking start (visited ++ [id]) }
    | _ => s
  else s

def Complete (start visited : List ℕ) : Prop := ∀ id ∈ start, s.Active id → id ∈ visited

instance (start visited : List ℕ) : Decidable (s.Complete start visited) :=
  inferInstanceAs (Decidable (∀ id ∈ start, s.Active id → id ∈ visited))

def endInitial : State :=
  match s.phase with
  | .initial start visited =>
    if s.Complete start visited then
      { s with
        phase := .idle
        stream := s.stream ++
          s.closedConnections.map fun id => (id, .new (s.conns id).counters true)
        observed := fun id =>
          if id ∈ s.closedConnections then (s.conns id).counters else s.observed id }
    else s
  | _ => s

def applyConnectionEvent (extra : ℕ × ℕ) : State :=
  match event with
  | .new => if (s.snapshots.get? id).isSome then s else s.reportNew id extra
  | .closed => { s with snapshots := s.snapshots.erase id }.send id .closed

def receive : State :=
  match s.phase, s.queue with
  | .idle, (id, event) :: queue => { s with queue }.applyConnectionEvent id event extra
  | _, _ => s

def tick : State :=
  match s.phase with
  | .idle => { s with phase := .ticking s.connections [] }
  | _ => s

def missing (visited : List ℕ) : List ℕ := (s.snapshots.entries.map Prod.fst).filter (· ∉ visited)

def endTick : State :=
  match s.phase with
  | .ticking start visited =>
    if s.Complete start visited then
      { s with
        phase := .idle
        snapshots := (s.missing visited).foldl erase s.snapshots
        stream := s.stream ++ (s.missing visited).map fun id => (id, .closed) }
    else s
  | _ => s

end State

/-! ### The steps -/

open State

inductive Action where
  | store
  | emitNew (id : ℕ)
  | delete (id : ℕ)
  | pushClosed (id : ℕ)
  | emitClosed (id : ℕ)
  | traffic (id : ℕ) (n : ℕ × ℕ)
  | subscribe
  | visit (id : ℕ) (extra : ℕ × ℕ)
  | endInitial
  | receive (extra : ℕ × ℕ)
  | tick
  | endTick

def State.step (s : State) : Action → State
  | .store => s.store
  | .emitNew id => s.emitNew id
  | .delete id => s.delete id
  | .pushClosed id => s.pushClosed id
  | .emitClosed id => s.emitClosed id
  | .traffic id n => s.traffic id n
  | .subscribe => s.subscribe
  | .visit id extra => s.visit id extra
  | .endInitial => s.endInitial
  | .receive extra => s.receive extra
  | .tick => s.tick
  | .endTick => s.endTick

/-! ### What the subscriber has -/

inductive Progress where
  | fresh
  | live (sum : Counters)
  | done (sum : Counters)

def Progress.next : Progress → Sent → Option Progress
  | .fresh, .new counters false => some (.live counters)
  | .fresh, .new counters true => some (.done counters)
  | .live sum, .update delta => some (.live (sum + delta))
  | .live sum, .closed => some (.done sum)
  | _, _ => none

def Progress.sum? : Progress → Option Counters
  | .fresh => none
  | .live sum | .done sum => some sum

namespace State
variable (s : State)

def sent (id : ℕ) : List Sent := (s.stream.filter fun entry => entry.1 = id).map Prod.snd

/-- How far a connection is reported, if it was reported in order. -/
def progress (id : ℕ) : Option Progress := (s.sent id).foldlM Progress.next .fresh

/-- Connections are reported in order, with the counters loaded last. -/
def Safe : Prop :=
  ∀ id, ∃ p, s.progress id = some p ∧ ∀ sum, p.sum? = some sum → sum = s.observed id

/-- None is leaving when the subscription begins or leaves before its event; nothing is sent between
the two loads; a tick comes to every connection. -/
def Careful : Action → Prop
  | .delete id => (s.conns id).joined ∧ s.phase.isInitial = false
  | .subscribe => ∀ id < s.born, (s.conns id).leaving = .no ∨ (s.conns id).leaving = .left
  | .visit id extra => extra = 0 ∨ (s.snapshots.get? id).isSome
  | .receive extra => extra = 0
  | .endTick => s.phase.visited? = none ∨ s.missing (s.phase.visited?.getD []) = []
  | _ => True

instance : ∀ a, Decidable (s.Careful a)
  | .delete _ => inferInstanceAs (Decidable (_ ∧ _))
  | .subscribe => inferInstanceAs (Decidable (∀ id < s.born,
      (s.conns id).leaving = .no ∨ (s.conns id).leaving = .left))
  | .visit _ _ => inferInstanceAs (Decidable (_ ∨ _))
  | .receive _ => inferInstanceAs (Decidable (_ = _))
  | .endTick => inferInstanceAs (Decidable (_ ∨ _))
  | .store | .emitNew _ | .pushClosed _ | .emitClosed _ | .traffic _ _ | .endInitial | .tick =>
    inferInstanceAs (Decidable True)

end State

inductive ViewPhase where
  | off
  | initial (started visited : Bool)
  | running

def Phase.view (id : ℕ) : Phase → ViewPhase
  | .off => .off
  | .initial start visited => .initial (id ∈ start) (id ∈ visited)
  | .idle | .ticking _ _ => .running

/-! ### One connection -/

structure View where
  born : Prop
  conn : Conn
  events : List EventType
  snapshot : Option Snapshot
  observed : Counters
  progress : Option Progress
  phase : ViewPhase

def View.emit (v : View) (event : EventType) : View :=
  match v.phase with
  | .off => v
  | _ => { v with events := v.events ++ [event] }

namespace State

def view (s : State) (id : ℕ) : View where
  born := id < s.born
  conn := s.conns id
  events := (s.queue.filter fun entry => entry.1 = id).map Prod.snd
  snapshot := s.snapshots.get? id
  observed := s.observed id
  progress := s.progress id
  phase := s.phase.view id

variable {s : State} {id id' : ℕ}

lemma view_setConn_self (conn : Conn) : (s.setConn id conn).view id = { s.view id with conn } := by
  simp [view, setConn, progress, sent]

lemma view_setConn_of_ne (h : id' ≠ id) (conn : Conn) :
    (s.setConn id conn).view id' = s.view id' := by
  simp [view, setConn, progress, sent, h]

lemma view_emit_of_ne (h : id' ≠ id) (event : EventType) :
    (s.emit id event).view id' = s.view id' := by
  unfold emit
  split
  · rfl
  · simp [view, progress, sent, filter_append, Ne.symm h]

lemma view_emit_self (event : EventType) : (s.emit id event).view id = (s.view id).emit event := by
  have hph : (s.view id).phase = s.phase.view id := rfl
  unfold emit View.emit
  cases hoff : s.phase <;> rw [hph, hoff] <;>
    simp [view, progress, sent, filter_append, hoff, Phase.view]

lemma view_send_self (sent : Sent) : (s.send id sent).view id =
    { s.view id with progress := (s.view id).progress.bind (·.next sent) } := by
  simp [view, send, progress, State.sent, filter_append, foldlM_append]

lemma view_send_of_ne (h : id' ≠ id) (sent : Sent) : (s.send id sent).view id' = s.view id' := by
  simp [view, send, progress, State.sent, filter_append, Ne.symm h]

lemma view_keep_self (snapshot : Snapshot) (observed : Counters) :
    (s.keep id snapshot observed).view id =
    { s.view id with snapshot := some snapshot, observed } := by
  simp [view, keep, progress, sent, get?_put]

lemma view_keep_of_ne (h : id' ≠ id) (snapshot : Snapshot) (observed : Counters) :
    (s.keep id snapshot observed).view id' = s.view id' := by
  simp [view, keep, progress, sent, get?_put, h]

end State

inductive View.Reported (v : View) : Prop where
  | fresh (hprogress : v.progress = some .fresh) (hsnapshot : v.snapshot = none)
  | live (snapshot : Snapshot) (hprogress : v.progress = some (.live snapshot.counters))
      (hsnapshot : v.snapshot = some snapshot) (hobserved : v.observed = snapshot.counters)
      (hle : snapshot.counters ≤ v.conn.counters)
  | done (hprogress : v.progress = some (.done v.observed)) (hsnapshot : v.snapshot = none)

lemma View.Reported.mono {v v' : View} (h : v.Reported) (hprogress : v'.progress = v.progress)
    (hsnapshot : v'.snapshot = v.snapshot) (hobserved : v'.observed = v.observed)
    (hle : v.conn.counters ≤ v'.conn.counters) : v'.Reported := by
  cases h with
  | fresh hfresh hnone => exact .fresh (hprogress.trans hfresh) (hsnapshot.trans hnone)
  | live snapshot hlive hsome hsame hle' =>
    exact .live snapshot (hprogress.trans hlive) (hsnapshot.trans hsome) (hobserved.trans hsame)
      (hle'.trans hle)
  | done hdone hnone =>
    exact .done (hprogress.trans (hdone.trans (by rw [hobserved]))) (hsnapshot.trans hnone)

structure Good (v : View) : Prop where
  unborn : ¬v.born → v.conn.joined = false
  joined : v.conn.joined = false → v.conn.leaving = .no ∧ v.events = []
  /-- The events come in order, and the last one is that of leaving. -/
  events : v.events = [] ∨ v.conn.leaving ≠ .left ∧ v.events = [.new] ∨
    v.conn.leaving = .left ∧ (v.events = [.closed] ∨ v.events = [.new, .closed])
  reported : v.Reported
  /-- Only a reported connection has no event of its joining. -/
  closed : v.events = [.closed] → v.progress ≠ some .fresh
  /-- A connection not reported has its event of joining in the queue. -/
  queued : v.phase = .running → v.conn.joined → v.conn.leaving ≠ .left → v.events = [] →
    v.progress ≠ some .fresh
  done : v.progress = some (.done v.observed) → v.conn.leaving = .left ∧ v.events = []
  off : v.phase = .off → v.progress = some .fresh ∧ v.events = []
  settled : ∀ started visited, v.phase = .initial started visited →
    v.conn.leaving = .no ∨ v.conn.leaving = .left ∧ v.events = []
  visited : ∀ started visited, v.phase = .initial started visited →
    (visited → v.conn.leaving = .no ∧ v.progress ≠ some .fresh) ∧
      (visited = false → v.progress = some .fresh)
  started : ∀ started visited, v.phase = .initial started visited →
    v.conn.joined → v.conn.leaving = .no → v.events = [] → started

namespace Good
variable {v : View} {snapshot : Snapshot} {counters : Counters} {started visited : Bool}
section
variable (h : Good v)
include h

lemma born_of_joined (hjoined : v.conn.joined) : v.born := by
  by_contra hborn
  cases hjoined.symm.trans (h.unborn hborn)

/-! Of the connection -/

lemma emitNew (hborn : v.born) (hjoined : v.conn.joined = false) :
    Good ({ v with conn := { v.conn with joined := true } }.emit .new) := by
  obtain ⟨hleaving, hevs⟩ := h.joined hjoined
  unfold View.emit
  cases hph : v.phase <;> dsimp only <;> constructor
  case off.reported | initial.reported | running.reported =>
    exact h.reported.mono rfl rfl rfl le_rfl
  all_goals grind -linarith -ring [Good]

lemma delete (hleaving : v.conn.leaving = .no) (hjoined : v.conn.joined)
    (hph : ∀ started visited, v.phase ≠ .initial started visited) :
    Good { v with conn := { v.conn with leaving := .deleted } } := by
  constructor
  case reported => exact h.reported.mono rfl rfl rfl le_rfl
  all_goals grind -linarith -ring [Good]

lemma pushClosed (hleaving : v.conn.leaving = .deleted) :
    Good { v with conn := { v.conn with leaving := .listed } } := by
  constructor
  case reported => exact h.reported.mono rfl rfl rfl le_rfl
  all_goals grind -linarith -ring [Good]

lemma emitClosed (hleaving : v.conn.leaving = .listed) :
    Good ({ v with conn := { v.conn with leaving := .left } }.emit .closed) := by
  have hevs : v.events = [] ∨ v.events = [.new] := by grind -linarith -ring [Good]
  unfold View.emit
  cases hph : v.phase with
  | off =>
    constructor
    case reported => exact h.reported.mono rfl rfl rfl le_rfl
    all_goals grind -linarith -ring [Good]
  | initial started visited =>
    rcases h.settled started visited hph with hno | ⟨hleft, -⟩
    · cases hleaving.symm.trans hno
    · cases hleaving.symm.trans hleft
  | running =>
    rcases hevs with hevs | hevs <;> rw [hevs] <;> constructor
    case inl.reported | inr.reported => exact h.reported.mono rfl rfl rfl le_rfl
    all_goals grind -linarith -ring [Good]

lemma traffic (hle : v.conn.counters ≤ counters) :
    Good { v with conn := { v.conn with counters } } :=
  ⟨h.unborn, h.joined, h.events, h.reported.mono rfl rfl rfl hle, h.closed, h.queued, h.done,
    h.off, h.settled, h.visited, h.started⟩

/-! Of the subscriber -/

lemma subscribe (started : Bool) (hph : v.phase = .off)
    (hleaving : v.conn.leaving = .no ∨ v.conn.leaving = .left)
    (hst : v.conn.joined → v.conn.leaving = .no → started) :
    Good { v with phase := .initial started false } := by
  constructor
  case reported => exact h.reported.mono rfl rfl rfl le_rfl
  all_goals grind -linarith -ring [Good]

lemma fresh_of_active (hleaving : v.conn.leaving = .no)
    (hsnapshot : v.snapshot = none) : v.progress = some .fresh := by
  cases h.reported with
  | fresh hprogress => exact hprogress
  | live snapshot _ hsnapshot' => cases hsnapshot.symm.trans hsnapshot'
  | done hprogress => cases hleaving.symm.trans (h.done hprogress).1

end

variable {events : List EventType}

lemma events_of_new (h : Good v) (hevs : v.events = .new :: events) :
    v.conn.joined ∧ (events = [] ∨ v.conn.leaving = .left ∧ events = [.closed]) := by
  constructor
  · refine eq_true_of_ne_false fun hjoined => ?_
    cases hevs.symm.trans (h.joined hjoined).2
  · have hshape := h.events
    rw [hevs] at hshape
    rcases hshape with heq | ⟨-, heq⟩ | ⟨hleft, heq | heq⟩ <;> cases heq
    · exact .inl rfl
    · exact .inr ⟨hleft, rfl⟩

lemma fresh_of_queued (h : Good v) (hevs : v.events = .new :: events)
    (hsnapshot : v.snapshot = none) : v.born ∧ v.progress = some .fresh := by
  refine ⟨h.born_of_joined (h.events_of_new hevs).1, ?_⟩
  cases h.reported with
  | fresh hprogress => exact hprogress
  | live snapshot _ hsnapshot' => cases hsnapshot.symm.trans hsnapshot'
  | done hprogress => cases hevs.symm.trans (h.done hprogress).2

lemma next_new (hprogress : v.progress = some .fresh) :
    v.progress.bind (·.next (.new counters false)) = some (.live counters) := by
  rw [hprogress]
  rfl

lemma reportInitial (h : Good v) (hborn : v.born) (hph : v.phase = .initial started false)
    (hleaving : v.conn.leaving = .no) :
    Good { v with
      snapshot := some ⟨v.conn.counters, false⟩
      observed := v.conn.counters
      progress := v.progress.bind (·.next (.new v.conn.counters false))
      phase := .initial started true } := by
  rw [next_new ((h.visited started false hph).2 rfl)]
  constructor
  case reported => exact .live ⟨v.conn.counters, false⟩ rfl rfl rfl le_rfl
  all_goals grind -linarith -ring [Good]

lemma of_running (hph : v.phase = .running) (hunborn : ¬v.born → v.conn.joined = false)
    (hjoined : v.conn.joined = false → v.conn.leaving = .no ∧ v.events = [])
    (hevs : v.events = [] ∨ v.conn.leaving ≠ .left ∧ v.events = [.new] ∨
      v.conn.leaving = .left ∧ (v.events = [.closed] ∨ v.events = [.new, .closed]))
    (hrep : v.Reported) (hfresh : v.progress = some .fresh → v.events ≠ [.closed] ∧
      (v.conn.joined → v.conn.leaving ≠ .left → v.events ≠ []))
    (hdone : v.progress = some (.done v.observed) → v.conn.leaving = .left ∧ v.events = []) :
    Good v where
  unborn := hunborn
  joined := hjoined
  events := hevs
  reported := hrep
  closed hcl hprogress := (hfresh hprogress).1 hcl
  queued _ hjoined hleaving hemp hprogress := (hfresh hprogress).2 hjoined hleaving hemp
  done := hdone
  off hoff := by cases hph.symm.trans hoff
  settled _ _ hinit := by cases hph.symm.trans hinit
  visited _ _ hinit := by cases hph.symm.trans hinit
  started _ _ hinit := by cases hph.symm.trans hinit

section
variable (h : Good v)
include h

lemma reportNew (hph : v.phase = .running) (hprogress : v.progress = some .fresh)
    (hevs : v.events = events ∨ v.events = .new :: events) :
    Good { v with
      events
      snapshot := some ⟨v.conn.counters, false⟩
      observed := v.conn.counters
      progress := v.progress.bind (·.next (.new v.conn.counters false)) } := by
  rw [next_new hprogress]
  refine of_running hph h.unborn ?_ ?_
    (.live ⟨v.conn.counters, false⟩ rfl rfl rfl le_rfl) (fun heq => by cases heq)
    (fun heq => by cases heq)
  · rcases hevs with rfl | hevs
    · exact h.joined
    · intro hfalse
      cases hfalse.symm.trans (h.events_of_new hevs).1
  · rcases hevs with rfl | hevs
    · exact h.events
    · rcases (h.events_of_new hevs).2 with rfl | ⟨hleft, rfl⟩
      · exact .inl rfl
      · exact .inr (.inr ⟨hleft, .inl rfl⟩)

lemma ne_fresh (hsnapshot : v.snapshot = some snapshot) : v.progress ≠ some .fresh := by
  cases h.reported with
  | fresh _ hnone => cases hsnapshot.symm.trans hnone
  | live _ hlive =>
    rw [hlive]
    exact fun heq => by cases heq
  | done _ hnone => cases hsnapshot.symm.trans hnone

lemma update (hph : v.phase = .running) {snapshot' : Snapshot}
    (hle : snapshot'.counters ≤ v.conn.counters) :
    Good { v with
      snapshot := some snapshot'
      observed := snapshot'.counters
      progress := some (.live snapshot'.counters) } := by
  refine of_running hph h.unborn h.joined h.events (.live snapshot' rfl rfl rfl hle)
    (fun heq => by cases heq) (fun heq => by cases heq)

lemma close (hph : v.phase = .running) (hevs : v.events = .closed :: events) : Good { v with
      events
      snapshot := none
      progress := v.progress.bind (·.next .closed) } := by
  have hcl : v.events = [.closed] ∧ v.conn.leaving = .left := by grind -linarith -ring [Good]
  obtain rfl : events = [] := tail_eq_of_cons_eq (hevs.symm.trans hcl.1)
  have hdone : v.progress.bind (·.next .closed) = some (.done v.observed) := by
    cases h.reported with
    | fresh hprogress => exact absurd hprogress (h.closed hcl.1)
    | live snapshot hprogress _ hobserved => rw [hprogress, hobserved]; rfl
    | done hprogress => cases hcl.1.symm.trans (h.done hprogress).2
  rw [hdone]
  refine of_running hph h.unborn (fun hjoined => ?_) (.inl rfl) (.done rfl rfl)
    (fun heq => by cases heq) (fun _ => ⟨hcl.2, rfl⟩)
  cases hevs.symm.trans (h.joined hjoined).2

lemma reportClosed (hph : v.phase = .initial started visited) (hleaving : v.conn.leaving ≠ .no) :
    Good { v with
      observed := v.conn.counters
      progress := v.progress.bind (·.next (.new v.conn.counters true))
      phase := .running } := by
  obtain ⟨hleft, hevs⟩ := (h.settled started visited hph).resolve_left hleaving
  have hprogress : v.progress = some .fresh := by
    cases visited with
    | true => exact absurd ((h.visited started true hph).1 rfl).1 hleaving
    | false => exact (h.visited started false hph).2 rfl
  have hdone : v.progress.bind (·.next (.new v.conn.counters true)) =
      some (.done v.conn.counters) := by rw [hprogress]; rfl
  rw [hdone]
  have hsnapshot : v.snapshot = none := by
    cases h.reported with
    | fresh _ hnone => exact hnone
    | live _ hlive => cases hprogress.symm.trans hlive
    | done _ hnone => exact hnone
  exact of_running rfl h.unborn h.joined h.events (.done rfl hsnapshot) (fun heq => by cases heq)
    (fun _ => ⟨hleft, hevs⟩)

lemma run (hph : v.phase = .initial started visited)
    (hcompl : started → v.born → v.conn.leaving = .no → visited) :
    Good { v with phase := .running } := by
  refine of_running rfl h.unborn h.joined h.events (h.reported.mono rfl rfl rfl le_rfl)
    (fun hprogress => ⟨fun hcl => h.closed hcl hprogress, ?_⟩) h.done
  intro hjoined hleaving hemp
  -- It was in the map all the time, so it is part of the initial state.
  have hno : v.conn.leaving = .no :=
    (h.settled started visited hph).resolve_right fun hleft => hleaving hleft.1
  have hvisited : visited :=
    hcompl (h.started started visited hph hjoined hno hemp) (h.born_of_joined hjoined) hno
  exact ((h.visited started visited hph).1 hvisited).2 hprogress

lemma skip (hph : v.phase = .running) (hsnapshot : v.snapshot = some snapshot)
    (hevs : v.events = .new :: events) : Good { v with events } := by
  obtain ⟨hjoined, hrest⟩ := h.events_of_new hevs
  refine of_running hph h.unborn (fun hfalse => ?_) ?_ (h.reported.mono rfl rfl rfl le_rfl)
    (fun hprogress => absurd hprogress (h.ne_fresh hsnapshot)) (fun hdone => ?_)
  · cases hfalse.symm.trans hjoined
  · rcases hrest with rfl | ⟨hleft, rfl⟩
    · exact .inl rfl
    · exact .inr (.inr ⟨hleft, .inl rfl⟩)
  · cases hevs.symm.trans (h.done hdone).2

lemma bear {born : Prop} (hborn : v.born → born) : Good { v with born } :=
  ⟨fun hnot => h.unborn (mt hborn hnot), h.joined, h.events, h.reported.mono rfl rfl rfl le_rfl,
    h.closed, h.queued, h.done, h.off, h.settled, h.visited, h.started⟩

end

end Good

def Leaving.isListed : Leaving → Bool
  | .listed | .left => true
  | .no | .deleted => false

namespace State

structure Inv (s : State) : Prop where
  good : ∀ id, Good (s.view id)
  nodup : s.closedConnections.Nodup
  closed : ∀ id ∈ s.closedConnections, (s.conns id).leaving.isListed

variable {s s' : State} {id : ℕ}

lemma conns_emit (event : EventType) : (s.emit id event).conns = s.conns := by
  unfold emit
  split <;> rfl

lemma closedConnections_emit (id : ℕ) (event : EventType) :
    (s.emit id event).closedConnections = s.closedConnections := by
  unfold emit
  split <;> rfl

lemma leaving_setConn (hconn : (s.conns id).leaving.isListed →
    conn.leaving.isListed) (id' : ℕ) (h : (s.conns id').leaving.isListed) :
    ((s.setConn id conn).conns id').leaving.isListed := by
  by_cases hid : id' = id
  · subst hid
    simpa [setConn] using hconn h
  · simpa [setConn, hid] using h

lemma Inv.of_others (h : Inv s) (id : ℕ) (hself : Good (s'.view id))
    (hothers : ∀ id' ≠ id, s'.view id' = s.view id')
    (hcl : s'.closedConnections = s.closedConnections)
    (hleaving : ∀ id', (s.conns id').leaving.isListed →
      (s'.conns id').leaving.isListed) : Inv s' where
  good id' := by
    by_cases hid : id' = id
    · exact hid ▸ hself
    · exact (hothers id' hid).symm ▸ h.good id'
  nodup := hcl ▸ h.nodup
  closed id' hid' := hleaving id' (h.closed id' (hcl ▸ hid'))

lemma Inv.store (h : Inv s) : Inv s.store where
  good id := (h.good id).bear fun hlt => Nat.lt_succ_of_lt hlt
  nodup := h.nodup
  closed := h.closed

lemma Inv.emitNew (h : Inv s) (id : ℕ) : Inv (s.emitNew id) := by
  unfold State.emitNew
  split_ifs with hnew
  · refine h.of_others id ?_ (fun id' hid => ?_) (closedConnections_emit _ _) ?_
    · rw [view_emit_self, view_setConn_self]
      exact (h.good id).emitNew hnew.1 hnew.2
    · rw [view_emit_of_ne hid, view_setConn_of_ne hid]
    · rw [conns_emit]
      exact leaving_setConn fun hls => hls
  · exact h

lemma Inv.delete (h : Inv s) (id : ℕ) (hcare : s.Careful (.delete id)) : Inv (s.delete id) := by
  unfold State.delete
  split_ifs with hactive
  · refine h.of_others id ?_ (fun id' hid => view_setConn_of_ne hid _) rfl ?_
    · rw [view_setConn_self]
      refine (h.good id).delete hactive.2 hcare.1 fun started visited hph => ?_
      have hnot := hcare.2
      have hview : s.phase.view id = .initial started visited := hph
      cases hs : s.phase with
      | initial start visited =>
        rw [hs] at hnot
        cases hnot
      | _ =>
        rw [hs] at hview
        cases hview
    · refine leaving_setConn fun hls => ?_
      rw [hactive.2] at hls
      cases hls
  · exact h

lemma kept_sublist (s : State) :
    List.Sublist (if closedConnectionsLimit ≤ s.closedConnections.length then
      s.closedConnections.tail else s.closedConnections) s.closedConnections := by
  split_ifs
  · exact tail_sublist _
  · exact List.Sublist.refl _

lemma Inv.pushClosed (h : Inv s) (id : ℕ) : Inv (s.pushClosed id) := by
  unfold State.pushClosed
  by_cases hdeleted : (s.conns id).leaving = .deleted
  · rw [if_pos hdeleted]
    have hkept := kept_sublist s
    have hsetConn : Inv (s.setConn id { s.conns id with leaving := .listed }) := by
      refine h.of_others id ?_ (fun id' hid => view_setConn_of_ne hid _) rfl
        (leaving_setConn fun _ => rfl)
      rw [view_setConn_self]
      exact (h.good id).pushClosed hdeleted
    constructor
    case good => exact hsetConn.good
    case nodup =>
      refine nodup_append.2 ⟨h.nodup.sublist hkept, nodup_singleton id, ?_⟩
      rintro id' hid' _ hid rfl
      obtain rfl := mem_singleton.1 hid
      have hls := h.closed id' (hkept.subset hid')
      rw [hdeleted] at hls
      cases hls
    case closed =>
      intro id' hid'
      rcases mem_append.1 hid' with hid' | hid'
      · exact hsetConn.closed id' (hkept.subset hid')
      · obtain rfl := mem_singleton.1 hid'
        simp [setConn, Leaving.isListed]
  · rw [if_neg hdeleted]
    exact h

lemma Inv.emitClosed (h : Inv s) (id : ℕ) : Inv (s.emitClosed id) := by
  unfold State.emitClosed
  split_ifs with hls
  · refine h.of_others id ?_ (fun id' hid => ?_) (closedConnections_emit _ _) ?_
    · rw [view_emit_self, view_setConn_self]
      exact (h.good id).emitClosed hls
    · rw [view_emit_of_ne hid, view_setConn_of_ne hid]
    · rw [conns_emit]
      exact leaving_setConn fun _ => rfl
  · exact h

lemma Inv.traffic (h : Inv s) (id : ℕ) (n : ℕ × ℕ) : Inv (s.traffic id n) := by
  refine h.of_others id ?_ (fun id' hid => view_setConn_of_ne hid _) rfl
    (leaving_setConn fun hls => hls)
  rw [State.traffic, view_setConn_self]
  refine (h.good id).traffic ⟨?_, ?_⟩
  · exact Int.le_add_of_nonneg_right (Int.natCast_nonneg n.1)
  · exact Int.le_add_of_nonneg_right (Int.natCast_nonneg n.2)

lemma mem_connections : id ∈ s.connections ↔ s.Active id := by
  simp only [connections, mem_filter, mem_range, decide_eq_true_eq]
  exact ⟨fun h => h.2, fun h => ⟨h.1, h⟩⟩

lemma view_withPhase (phase : Phase) :
    ({ s with phase } : State).view id = { s.view id with phase := phase.view id } := rfl

lemma Inv.subscribe (h : Inv s) (hcare : s.Careful .subscribe) : Inv s.subscribe := by
  unfold State.subscribe
  split
  · next hoff =>
    refine ⟨fun id => ?_, h.nodup, h.closed⟩
    have hgood := h.good id
    have hview : (Phase.initial s.connections []).view id =
        .initial (decide (id ∈ s.connections)) false := by simp [Phase.view]
    rw [view_withPhase, hview]
    refine hgood.subscribe _ (congrArg (Phase.view id) hoff) ?_ fun hjoined hleaving => ?_
    · by_cases hborn : id < s.born
      · exact hcare id hborn
      · exact .inl (hgood.joined (hgood.unborn hborn)).1
    · exact decide_eq_true (mem_connections.2 ⟨hgood.born_of_joined hjoined, hleaving⟩)
  · exact h

def report (s : State) (id : ℕ) : State :=
  (s.keep id ⟨(s.conns id).counters, false⟩ (s.conns id).counters).send id
    (.new (s.conns id).counters false)

lemma traffic_zero : s.traffic id 0 = s := by
  have hzero : (s.conns id).counters + (((0 : ℕ × ℕ).1 : ℤ), ((0 : ℕ × ℕ).2 : ℤ)) =
      (s.conns id).counters := add_zero _
  rw [traffic, hzero]
  exact congrArg (fun conns => { s with conns }) (update_eq_self id s.conns)

lemma reportInitial_zero : s.reportInitial id 0 = s.report id := by
  rw [reportInitial, traffic_zero]
  rfl

lemma reportNew_zero : s.reportNew id 0 = s.report id := by
  rw [reportNew, traffic_zero]
  rfl

lemma view_report_self : (s.report id).view id = { s.view id with
      snapshot := some ⟨(s.view id).conn.counters, false⟩
      observed := (s.view id).conn.counters
      progress := (s.view id).progress.bind (·.next (.new (s.view id).conn.counters false)) } := by
  rw [report, view_send_self, view_keep_self]
  rfl

lemma view_report_of_ne {id' : ℕ} (h : id' ≠ id) : (s.report id).view id' = s.view id' := by
  rw [report, view_send_of_ne h, view_keep_of_ne h]

lemma Inv.reportInitial (h : Inv s) {start visited : List ℕ}
    (hph : s.phase = .initial start visited) (hactive : s.Active id) (hid : id ∉ visited) :
    Inv { s.report id with phase := .initial start (visited ++ [id]) } := by
  have hview : (s.view id).phase = .initial (decide (id ∈ start)) false := by
    simp [view, hph, Phase.view, hid]
  refine h.of_others id ?_ (fun id' hid' => ?_) rfl fun _ hls => hls
  · have hafter : (Phase.initial start (visited ++ [id])).view id =
        .initial (decide (id ∈ start)) true := by simp [Phase.view]
    rw [view_withPhase, hafter, view_report_self]
    exact (h.good id).reportInitial hactive.1 hview hactive.2
  · rw [view_withPhase, view_report_of_ne hid']
    have hafter : (Phase.initial start (visited ++ [id])).view id' = (s.view id').phase := by
      simp [view, hph, Phase.view, hid']
    rw [hafter]

lemma Inv.withPhase (h : Inv s) {phase : Phase} (hph : ∀ id, phase.view id = s.phase.view id) :
    Inv { s with phase } where
  good id := by
    rw [view_withPhase, hph]
    exact h.good id
  nodup := h.nodup
  closed := h.closed

lemma phase_trafficUpdate (extra : ℕ × ℕ) : (s.trafficUpdate id extra).phase = s.phase := by
  unfold trafficUpdate
  split
  · rfl
  · dsimp only
    split <;> rfl

lemma Inv.trafficUpdate (h : Inv s) (hph : ∀ id, s.phase.view id = .running)
    (hactive : s.Active id) {extra : ℕ × ℕ}
    (hextra : extra = 0 ∨ (s.snapshots.get? id).isSome) :
    Inv (s.trafficUpdate id extra) := by
  have hgood := h.good id
  unfold State.trafficUpdate
  cases hsnapshot : s.snapshots.get? id with
  | none =>
    rw [hsnapshot] at hextra
    obtain rfl := hextra.resolve_right Bool.false_ne_true
    rw [reportNew_zero]
    refine h.of_others id ?_ (fun id' hid => view_report_of_ne hid) rfl fun _ hls => hls
    rw [view_report_self]
    exact hgood.reportNew (hph id) (hgood.fresh_of_active hactive.2 hsnapshot) (.inl rfl)
  | some snapshot =>
    dsimp only
    have hlive : (s.view id).progress = some (.live snapshot.counters) ∧
        snapshot.counters ≤ (s.conns id).counters := by
      cases hgood.reported with
      | fresh _ hnone => cases hsnapshot.symm.trans hnone
      | live snapshot' hprogress hsome _ hle =>
        cases hsnapshot.symm.trans hsome
        exact ⟨hprogress, hle⟩
      | done _ hnone => cases hsnapshot.symm.trans hnone
    obtain ⟨hcounters, hsum⟩ := snapshot.update_spec hlive.2
    have hupdate := hgood.update (hph id) hcounters.le
    rw [hcounters] at hupdate
    split
    · next hnone =>
      rw [hnone] at hsum
      refine h.of_others id ?_ (fun id' hid => view_keep_of_ne hid _ _) rfl fun _ hls => hls
      have hsame : (s.view id).progress = some (.live (s.conns id).counters) := by
        rw [hlive.1, ← hsum]
        exact congrArg (fun sum => some (Progress.live sum)) (add_zero _).symm
      rw [view_keep_self]
      dsimp only
      rw [hsame]
      exact hupdate
    · next delta hsome =>
      rw [hsome] at hsum
      refine h.of_others id ?_ (fun id' hid => ?_) rfl fun _ hls => hls
      · have hnext : (s.view id).progress.bind (·.next (.update delta)) =
            some (.live (s.conns id).counters) := by
          rw [hlive.1, ← hsum]
          rfl
        rw [view_send_self, view_keep_self]
        rw [hnext]
        exact hupdate
      · rw [view_send_of_ne hid, view_keep_of_ne hid]

lemma Inv.visit (h : Inv s) (id : ℕ) {extra : ℕ × ℕ} (hcare : s.Careful (.visit id extra)) :
    Inv (s.visit id extra) := by
  unfold State.visit
  by_cases hactive : s.Active id
  · rw [if_pos hactive]
    split
    · next start visited hph =>
      split_ifs with hid
      · exact h
      · have hextra : extra = 0 := by
          refine hcare.resolve_right fun hsome => ?_
          obtain ⟨snapshot, hsnapshot⟩ := Option.isSome_iff_exists.1 hsome
          have hview : (s.view id).phase = .initial (decide (id ∈ start)) false := by
            simp [view, hph, Phase.view, hid]
          exact (h.good id).ne_fresh hsnapshot (((h.good id).visited _ _ hview).2 rfl)
        rw [hextra, reportInitial_zero]
        exact h.reportInitial hph hactive hid
    · next start visited hph =>
      split_ifs with hid
      · exact h
      · have hrun : ∀ id, s.phase.view id = .running := fun id => by rw [hph]; rfl
        refine (h.trafficUpdate hrun hactive hcare).withPhase fun id' => ?_
        rw [phase_trafficUpdate, hph]
        rfl
    · exact h
  · rw [if_neg hactive]
    exact h

lemma filter_map_pair {β : Type} {ids : List ℕ} (hids : ids.Nodup) (f : ℕ → β) (id : ℕ) :
    ((ids.map fun id => (id, f id)).filter fun entry => entry.1 = id) =
    if id ∈ ids then [(id, f id)] else [] := by
  induction ids with
  | nil => rfl
  | cons id' ids ih =>
    obtain ⟨hnot, hids⟩ := nodup_cons.1 hids
    rw [map_cons, filter_cons, ih hids]
    by_cases hid : id' = id
    · subst hid
      simp [hnot]
    · simp [hid, Ne.symm hid]

lemma Inv.endInitial (h : Inv s) : Inv s.endInitial := by
  unfold State.endInitial
  split
  · next start visited hph =>
    split_ifs with hcompl
    · refine ⟨fun id => ?_, h.nodup, h.closed⟩
      have hview : (s.view id).phase = .initial (decide (id ∈ start)) (decide (id ∈ visited)) :=
        congrArg (Phase.view id) hph
      by_cases hcl : id ∈ s.closedConnections
      · have hleaving : (s.conns id).leaving ≠ .no := fun hno => by
          have hls := h.closed id hcl
          rw [hno] at hls
          cases hls
        have hreport := (h.good id).reportClosed hview hleaving
        simpa [view, progress, sent, filter_append, filter_map_pair h.nodup, hcl,
          foldlM_append, Phase.view] using hreport
      · have hrun := (h.good id).run hview fun hst hborn hno => ?_
        · simpa [view, progress, sent, filter_append, filter_map_pair h.nodup, hcl,
            Phase.view] using hrun
        · exact decide_eq_true (hcompl id (of_decide_eq_true hst) ⟨hborn, hno⟩)
    · exact h
  · exact h

lemma view_withQueue (queue : List (ℕ × EventType)) : ({ s with queue } : State).view id =
    { s.view id with events := (queue.filter fun entry => entry.1 = id).map Prod.snd } := rfl

lemma Inv.receive (h : Inv s) : Inv (s.receive 0) := by
  unfold State.receive
  split
  · next id event queue hph hqueue =>
    have hgood := h.good id
    have hrun : (s.view id).phase = .running := congrArg (Phase.view id) hph
    have hevs : (s.view id).events =
        event :: (queue.filter fun entry => entry.1 = id).map Prod.snd := by
      simp [view, hqueue]
    -- The events of the other connections stay in the queue.
    have hothers : ∀ id' ≠ id, ({ s with queue } : State).view id' = s.view id' := by
      intro id' hid
      simp [view, progress, sent, hqueue, Ne.symm hid]
    unfold applyConnectionEvent
    cases event with
    | new =>
      by_cases hsome : (s.snapshots.get? id).isSome
      · rw [if_pos hsome]
        obtain ⟨snapshot, hsnapshot⟩ := Option.isSome_iff_exists.1 hsome
        refine h.of_others id ?_ hothers rfl fun _ hls => hls
        exact hgood.skip hrun hsnapshot hevs
      · rw [if_neg hsome, reportNew_zero]
        have hnone : s.snapshots.get? id = none := Option.not_isSome_iff_eq_none.1 hsome
        refine h.of_others id ?_ (fun id' hid => ?_) rfl fun _ hls => hls
        · obtain ⟨hborn, hfresh⟩ := hgood.fresh_of_queued hevs hnone
          rw [view_report_self, view_withQueue]
          exact hgood.reportNew hrun hfresh (.inr hevs)
        · rw [view_report_of_ne hid, hothers id' hid]
    | closed =>
      refine h.of_others id ?_ (fun id' hid => ?_) rfl fun _ hls => hls
      · rw [view_send_self]
        have hclose := hgood.close hrun hevs
        simpa [view, get?_erase, progress, sent] using hclose
      · rw [view_send_of_ne hid, ← hothers id' hid]
        simp [view, get?_erase, hid, progress, sent]
  · exact h

lemma Inv.tick (h : Inv s) : Inv s.tick := by
  unfold State.tick
  split
  · next hph => exact h.withPhase fun id => by rw [hph]; rfl
  · exact h

lemma Inv.endTick (h : Inv s) (hcare : s.Careful .endTick) : Inv s.endTick := by
  unfold State.endTick
  split
  · next start visited hph =>
    have hmissing : s.missing visited = [] := by
      simpa [Careful, hph, Phase.visited?] using hcare
    split_ifs
    · rw [hmissing, map_nil, append_nil]
      exact h.withPhase fun id => by rw [hph]; rfl
    · exact h
  · exact h

lemma inv_start : Inv {} where
  good id :=
    { unborn := fun _ => rfl
      joined := fun _ => ⟨rfl, rfl⟩
      events := .inl rfl
      reported := .fresh rfl rfl
      closed := fun hevs => by cases hevs
      queued := fun hph => by cases hph
      done := fun hdone => by cases hdone
      off := fun _ => ⟨rfl, rfl⟩
      settled := fun _ _ hph => by cases hph
      visited := fun _ _ hph => by cases hph
      started := fun _ _ hph => by cases hph }
  nodup := nodup_nil
  closed id hid := absurd hid not_mem_nil

lemma Inv.step (h : Inv s) {a : Action} (hcare : s.Careful a) : Inv (s.step a) := by
  cases a with
  | store => exact h.store
  | emitNew id => exact h.emitNew id
  | delete id => exact h.delete id hcare
  | pushClosed id => exact h.pushClosed id
  | emitClosed id => exact h.emitClosed id
  | traffic id n => exact h.traffic id n
  | subscribe => exact h.subscribe hcare
  | visit id extra => exact h.visit id hcare
  | endInitial => exact h.endInitial
  | receive extra =>
    obtain rfl : extra = 0 := hcare
    exact h.receive
  | tick => exact h.tick
  | endTick => exact h.endTick hcare

/-- A connection joins, is reported and updated, and leaves; a tick finds another one before its
event. -/
def carefulSteps : List Action :=
  [.store, .emitNew 0, .subscribe, .visit 0 0, .endInitial, .store, .traffic 0 (3, 4), .tick,
    .visit 0 0, .visit 1 0, .endTick, .emitNew 1, .receive 0, .delete 0, .pushClosed 0,
    .emitClosed 0, .receive 0]

/-- In every run of careful steps connections are reported in order. -/
theorem reported_of_careful_run (h : Run step Careful {} s) : s.Safe := by
  have hinv : Inv s := h.invariant inv_start fun s a hinv hcare => hinv.step hcare
  intro id
  cases (hinv.good id).reported with
  | fresh hprogress => exact ⟨.fresh, hprogress, fun sum hsum => by cases hsum⟩
  | live snapshot hprogress _ hobserved =>
    exact ⟨_, hprogress, fun sum hsum => (Option.some.inj hsum).symm.trans hobserved.symm⟩
  | done hprogress => exact ⟨_, hprogress, fun sum hsum => (Option.some.inj hsum).symm⟩

theorem reported_carefulSteps : Safe (carefulSteps.foldl step {}) :=
  reported_of_careful_run (Run.start.foldl (by decide +kernel))

/-- A connection is gone before its event, or leaves while the initial state is built; bytes are
sent between the two loads. -/
theorem not_reported_steps :
    ¬Safe ([.store, .emitNew 0, .subscribe, .visit 0 0, .endInitial, .delete 0, .pushClosed 0,
      .emitClosed 0, .tick, .endTick, .receive 0].foldl step {}) ∧
    ¬Safe ([.store, .emitNew 0, .subscribe, .visit 0 0, .delete 0, .pushClosed 0,
      .endInitial].foldl step {}) ∧
    ¬Safe ([.store, .emitNew 0, .delete 0, .subscribe, .endInitial, .pushClosed 0, .emitClosed 0,
      .receive 0].foldl step {}) ∧
    ¬Safe ([.store, .emitNew 0, .subscribe, .visit 0 (5, 0)].foldl step {}) := by
  refine ⟨fun h => ?_, fun h => ?_, fun h => ?_, fun h => ?_⟩
  · obtain ⟨p, hp, -⟩ := h 0
    cases hp
  · obtain ⟨p, hp, -⟩ := h 0
    cases hp
  · obtain ⟨p, hp, -⟩ := h 0
    cases hp
  · obtain ⟨p, hp, hsum⟩ := h 0
    cases hp
    exact absurd (hsum _ rfl) (by decide +kernel)

end State

end SingBox.Daemon.Stream
