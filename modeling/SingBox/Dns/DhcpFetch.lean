import SingBox.Adapter.InboundContext

/-!
# How long the servers from DHCP are used

The servers are asked for again after an hour, but the error of a failed query is returned before.
-/

namespace SingBox.DHCPFetch

def dhcpTTL : ℕ := 3600000000000

/-- In nanoseconds. The time of the update is missing if it is zero. -/
structure State where
  updatedAt : Option ℕ := none
  lastError : Option String := none
  servers : List Socksaddr := []

/-- No interface, a failure (an offer may come late), or an offer. -/
inductive Outcome
  | noInterface (err : String)
  | failed (err : String) (late : Option (List Socksaddr))
  | offer (servers : List Socksaddr)

abbrev Query := ℕ × Except String (List Socksaddr)

def Outcome.query (done : ℕ) : Outcome → Option Query
  | .noInterface _ => none
  | .failed err _ => some (done, .error err)
  | .offer [] => some (done, .error "dhcp: empty DNS servers response")
  | .offer servers => some (done, .ok servers)

namespace State

def updateServers (s : State) (done : ℕ) : Outcome → State × Option String
  | .noInterface err => (s, some ("dhcp: prepare interface: " ++ err))
  | .failed err late => (⟨some done, some err, late.getD s.servers⟩, some err)
  | .offer servers =>
    let err := if servers = [] then some "dhcp: empty DNS servers response" else none
    (⟨some done, err, servers⟩, err)

def Fresh (s : State) (now : ℕ) : Prop := ∃ updatedAt ∈ s.updatedAt, now - updatedAt < dhcpTTL

instance (s : State) (now : ℕ) : Decidable (s.Fresh now) :=
  inferInstanceAs (Decidable (∃ updatedAt ∈ s.updatedAt, now - updatedAt < dhcpTTL))

structure Fetched where
  state : State
  servers : List Socksaddr
  err : Option String
  asked : Bool

/-- It begins at `now`, has the lock at `locked`, and its query ends at `done`. -/
def fetch (s : State) (now locked done : ℕ) (outcome : Outcome) : Fetched :=
  match s.lastError with
  | some err => ⟨s, [], some err, false⟩
  | none =>
    if s.Fresh now then ⟨s, s.servers, none, false⟩
    else if s.Fresh locked then ⟨s, s.servers, none, false⟩
    else
      match s.updateServers done outcome with
      | (updated, some err) => ⟨updated, s.servers, some err, true⟩
      | (updated, none) => ⟨updated, updated.servers, none, true⟩

end State

inductive Op
  | fetch (now locked done : ℕ) (outcome : Outcome)
  | reset
  | interfaceUpdated (done : ℕ) (outcome : Outcome)

/-- With the last completed query, and whether a `Reset` came after it. -/
structure Trace where
  state : State := {}
  last : Option Query := none
  isReset : Bool := false

def Trace.update (r : Trace) (state : State) : Option Query → Trace
  | none => { r with state }
  | some query => ⟨state, some query, false⟩

def Trace.step (r : Trace) : Op → Trace
  | .fetch now locked done outcome =>
    let fetched := r.state.fetch now locked done outcome
    r.update fetched.state (if fetched.asked then outcome.query done else none)
  | .reset => { r with state := {}, isReset := true }
  | .interfaceUpdated done outcome =>
    r.update (r.state.updateServers done outcome).1 (outcome.query done)

def run (ops : List Op) : Trace := ops.foldl Trace.step {}

def State.Holds (s : State) (query : Query) : Prop := s.updatedAt = some query.1 ∧
    match query.2 with
    | .error err => s.lastError = some err
    | .ok servers => s.lastError = none ∧ s.servers = servers

def Trace.Inv (r : Trace) : Prop :=
  if r.isReset then r.state.updatedAt = none ∧ r.state.lastError = none
  else ∀ query ∈ r.last, r.state.Holds query

variable {r : Trace} {done : ℕ} {outcome : Outcome}
open State in
lemma Trace.Inv.update (h : r.Inv) :
    (r.update (r.state.updateServers done outcome).1 (outcome.query done)).Inv := by
  cases outcome with
  | noInterface err => exact h
  | failed err late => simp [Trace.update, Outcome.query, Trace.Inv, updateServers, State.Holds]
  | offer servers =>
    cases servers <;> simp [Trace.update, Outcome.query, Trace.Inv, updateServers, State.Holds]

lemma State.fetch_cases (s : State) (now locked done : ℕ) (outcome : Outcome) :
    let fetched := s.fetch now locked done outcome
    fetched.asked = false ∧ fetched.state = s ∨
      fetched.asked ∧ fetched.state = (s.updateServers done outcome).1 := by
  unfold State.fetch
  grind

lemma Trace.Inv.step (h : r.Inv) (op : Op) : (r.step op).Inv := by
  cases op with
  | fetch now locked done outcome =>
    obtain ⟨hasked, hstate⟩ | ⟨hasked, hstate⟩ := r.state.fetch_cases now locked done outcome
    · simp only [Trace.step, hasked, hstate]
      exact h
    · simp only [Trace.step, hasked, hstate]
      exact h.update
  | reset => exact ⟨rfl, rfl⟩
  | interfaceUpdated done outcome => exact h.update

lemma inv_run (ops : List Op) : (run ops).Inv := by
  have hfold : ∀ r : Trace, r.Inv → (ops.foldl Trace.step r).Inv := by
    induction ops with
    | nil => exact fun _ h => h
    | cons op ops ih => exact fun r h => ih _ (h.step op)
  exact hfold {} (by simp [Trace.Inv])

lemma State.asked_fetch {s : State} {now locked : ℕ} (hnone : s.lastError = none)
    (hnow : ¬s.Fresh now) (hlocked : ¬s.Fresh locked) :
    (s.fetch now locked done outcome).asked := by
  rw [State.fetch, hnone]
  dsimp only
  rw [if_neg hnow, if_neg hlocked]
  split <;> rfl

/-- A success is repeated after an hour, and every query after a `Reset`, not before. -/
theorem fetch_last (ops : List Op) (query : Query)
    (hlast : (run ops).last = some query) (now locked done : ℕ) (hlocked : now ≤ locked)
    (outcome : Outcome) :
    let fetched := (run ops).state.fetch now locked done outcome
    (fetched.asked ↔ (run ops).isReset ∨ dhcpTTL ≤ now - query.1 ∧ query.2.isOk) ∧
    (now - query.1 < dhcpTTL → (run ops).isReset = false → fetched.asked = false ∧
      match query.2 with
      | .error err => fetched.err = some err
      | .ok servers => fetched.servers = servers ∧ fetched.err = none) := by
  have hinv := inv_run ops
  unfold Trace.Inv at hinv
  constructor
  · cases hreset : (run ops).isReset with
    | true =>
      -- Neither check finds the servers fresh, and there is no error of a query.
      rw [hreset, if_pos rfl] at hinv
      have hstale (time : ℕ) : ¬(run ops).state.Fresh time := by simp [State.Fresh, hinv.1]
      refine iff_of_true ?_ (.inl rfl)
      exact State.asked_fetch hinv.2 (hstale now) (hstale locked)
    | false =>
      rw [hreset, if_neg Bool.false_ne_true] at hinv
      obtain ⟨hat, hholds⟩ := hinv query hlast
      have hfresh (time : ℕ) : (run ops).state.Fresh time ↔ time - query.1 < dhcpTTL := by
        simp [State.Fresh, hat]
      cases hquery : query.2 with
      | error err =>
        rw [hquery] at hholds
        simp [State.fetch, hholds, Except.isOk, Except.toBool]
      | ok servers =>
        rw [hquery] at hholds
        by_cases hnew : now - query.1 < dhcpTTL
        · simp [State.fetch, hholds, (hfresh now).2 hnew, Nat.not_le.2 hnew]
        · have hlate : ¬locked - query.1 < dhcpTTL := by omega
          refine iff_of_true ?_ (.inr ⟨Nat.le_of_not_lt hnew, rfl⟩)
          exact State.asked_fetch hholds.1 (mt (hfresh now).1 hnew) (mt (hfresh locked).1 hlate)
  · intro hnew hreset
    rw [hreset] at hinv
    obtain ⟨hat, hholds⟩ := hinv query hlast
    have hfresh : (run ops).state.Fresh now := ⟨query.1, hat, hnew⟩
    unfold State.fetch
    cases hquery : query.2 with
    | error err =>
      rw [hquery] at hholds
      simp [hholds]
    | ok servers =>
      rw [hquery] at hholds
      simp [hholds, hfresh]

theorem fetch_last_offer :
    let server : Socksaddr := { port := 53 }
    ((run [.fetch 0 0 1 (.offer [server])]).state.fetch (dhcpTTL + 1) (dhcpTTL + 1) (dhcpTTL + 2)
      (.failed "timeout" none)).asked :=
  (fetch_last [.fetch 0 0 1 (.offer [{ port := 53 }])] (1, .ok [{ port := 53 }]) rfl _ _ _
    (Nat.le_refl _) _).1.2 (.inr ⟨by decide, rfl⟩)

/-- The error of the first query is returned at any later time. -/
theorem fetch_failed :
    let failed := run [.fetch 0 0 1 (.failed "timeout" none)]
    failed.last = some (1, .error "timeout") ∧ ∀ now locked done outcome,
      let fetched := failed.state.fetch now locked done outcome
      fetched.asked = false ∧ fetched.err = some "timeout" :=
  ⟨rfl, fun _ _ _ _ => ⟨rfl, rfl⟩⟩

end SingBox.DHCPFetch
