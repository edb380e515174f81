import SingBox.Hysteria2.Realm

/-!
# The tables and counters of the realm server

Channels are closed with their session, so none is closed twice or sent on afterwards. `Consistent`
says that the tables and counters are those of the open sessions. Most steps leave the sessions
alone (`Similar`); those that add and remove one are treated singly.
-/

namespace SingBox.Realm
open Server List Function OrderedMap RealmSession Channel

/-! ### The tables -/

namespace Server

def IsOpen (s : Server) (k : ℕ) : Prop := (s.heap k).closed = false

instance (s : Server) (k : ℕ) : Decidable (s.IsOpen k) :=
  inferInstanceAs (Decidable ((s.heap k).closed = false))

def openSessions (s : Server) (name : String) : Finset ℕ :=
  (Finset.range s.next).filter fun k => s.IsOpen k ∧ (s.heap k).username = name

/-- The table holds exactly the open sessions, under the given field. -/
def TableOf (s : Server) (table : OrderedMap String ℕ) (field : RealmSession → String) : Prop :=
  ∀ key k, table.get? key = some k ↔ s.IsOpen k ∧ field (s.heap k) = key

structure Consistent (s : Server) : Prop where
  lt_next : ∀ {k}, s.IsOpen k → k < s.next
  realms : s.TableOf s.realms realmID
  sessions : s.TableOf s.sessions id
  counted : ∀ name, s.userCount name = (s.openSessions name).card
  channels : ∀ {k}, s.IsOpen k → (s.heap k).done.closed = false ∧ (s.heap k).events.closed = false
  /-- A pending attempt has an open session and channel, and its nonce. -/
  pending : ∀ {k nonce i}, (s.heap k).pending.get? nonce = some i →
    s.IsOpen k ∧ i < s.nextAttempt ∧ (s.attempts i).sess = k ∧ (s.attempts i).nonce = nonce ∧
      (s.attempts i).respCh.closed = false
  found : ∀ {i}, (s.attempts i).stage = .found →
    i < s.nextAttempt ∧ (s.attempts i).respCh.closed = false ∧
      ∀ k nonce, (s.heap k).pending.get? nonce ≠ some i

lemma consistent_empty : Consistent {} where
  lt_next h := nomatch h
  realms _ _ := ⟨fun h => (nomatch h), fun h => (nomatch h.1)⟩
  sessions _ _ := ⟨fun h => (nomatch h), fun h => (nomatch h.1)⟩
  counted _ := rfl
  channels h := nomatch h
  pending h := nomatch h
  found h := nomatch h

/-! ### Steps that keep the sessions -/

structure Similar (s s' : Server) : Prop where
  realms : s'.realms = s.realms
  sessions : s'.sessions = s.sessions
  userCounts : s'.userCounts = s.userCounts
  next : s'.next = s.next
  nextAttempt : s.nextAttempt ≤ s'.nextAttempt
  closed : ∀ k, (s'.heap k).closed = (s.heap k).closed
  id : ∀ k, (s'.heap k).id = (s.heap k).id
  realmID : ∀ k, (s'.heap k).realmID = (s.heap k).realmID
  username : ∀ k, (s'.heap k).username = (s.heap k).username
  channels : ∀ k, s.IsOpen k → (s.heap k).events.closed = false →
    (s'.heap k).done.closed = (s.heap k).done.closed ∧ (s'.heap k).events.closed = false
  pending : ∀ {k nonce i}, (s'.heap k).pending.get? nonce = some i →
    (s.heap k).pending.get? nonce = some i
  attempts : ∀ i < s.nextAttempt, (s'.attempts i).sess = (s.attempts i).sess ∧
    (s'.attempts i).nonce = (s.attempts i).nonce ∧
      ((s.attempts i).respCh.closed = false → (s'.attempts i).respCh.closed = false)
  found : ∀ {i}, (s'.attempts i).stage = .found → (s.attempts i).stage = .found ∨
    s.nextAttempt ≤ i ∧ i < s'.nextAttempt ∧ (s'.attempts i).respCh.closed = false

lemma Similar.refl (s : Server) : Similar s s where
  realms := rfl
  sessions := rfl
  userCounts := rfl
  next := rfl
  nextAttempt := le_rfl
  closed _ := rfl
  id _ := rfl
  realmID _ := rfl
  username _ := rfl
  channels _ _ h := ⟨rfl, h⟩
  pending h := h
  attempts _ _ := ⟨rfl, rfl, fun h => h⟩
  found h := .inl h

variable {s' : Server} {i : ℕ} {table : OrderedMap String ℕ} {field : RealmSession → String}

lemma Consistent.of_similar {s : Server} (h : Consistent s) (hs : Similar s s') :
    Consistent s' := by
  have hopen : ∀ k, s'.IsOpen k ↔ s.IsOpen k := fun k => by rw [IsOpen, IsOpen, hs.closed k]
  constructor
  case lt_next =>
    intro k hk
    rw [hs.next]
    exact h.lt_next ((hopen k).1 hk)
  case realms =>
    intro realm k
    rw [hs.realms, hopen, hs.realmID]
    exact h.realms realm k
  case sessions =>
    intro id k
    rw [hs.sessions, hopen, hs.id]
    exact h.sessions id k
  case counted =>
    intro name
    have hsame : s'.openSessions name = s.openSessions name := by
      simp [openSessions, hs.next, hopen, hs.username]
    rw [hsame, ← h.counted, userCount, userCount, hs.userCounts]
  case channels =>
    intro k hk
    obtain ⟨hdone, hevs⟩ := h.channels ((hopen k).1 hk)
    obtain ⟨hdone', hevs'⟩ := hs.channels k ((hopen k).1 hk) hevs
    exact ⟨hdone'.trans hdone, hevs'⟩
  case pending =>
    intro k nonce i hi
    obtain ⟨hk, hlt, hsess, hnonce, hcl⟩ := h.pending (hs.pending hi)
    obtain ⟨hsess', hnonce', hcl'⟩ := hs.attempts i hlt
    exact ⟨(hopen k).2 hk, hlt.trans_le hs.nextAttempt, hsess'.trans hsess, hnonce'.trans hnonce,
      hcl' hcl⟩
  case found =>
    intro i hi
    rcases hs.found hi with hold | ⟨hge, hlt, hcl⟩
    · obtain ⟨hlt, hcl, hnew⟩ := h.found hold
      exact ⟨hlt.trans_le hs.nextAttempt, (hs.attempts i hlt).2.2 hcl,
        fun k nonce hget => hnew k nonce (hs.pending hget)⟩
    · refine ⟨hlt, hcl, fun k nonce hget => ?_⟩
      exact not_lt.2 hge (h.pending (hs.pending hget)).2.1

lemma Similar.trans {s s'' : Server} (h : Similar s s') (h' : Similar s' s'') : Similar s s'' where
  realms := h'.realms.trans h.realms
  sessions := h'.sessions.trans h.sessions
  userCounts := h'.userCounts.trans h.userCounts
  next := h'.next.trans h.next
  nextAttempt := h.nextAttempt.trans h'.nextAttempt
  closed k := (h'.closed k).trans (h.closed k)
  id k := (h'.id k).trans (h.id k)
  realmID k := (h'.realmID k).trans (h.realmID k)
  username k := (h'.username k).trans (h.username k)
  channels k hk hevs := by
    obtain ⟨hdone, hevs'⟩ := h.channels k hk hevs
    obtain ⟨hdone', hevs''⟩ := h'.channels k ((h.closed k).trans hk) hevs'
    exact ⟨hdone'.trans hdone, hevs''⟩
  pending hi := h.pending (h'.pending hi)
  attempts i hi := by
    obtain ⟨hsess, hnonce, hcl⟩ := h.attempts i hi
    obtain ⟨hsess', hnonce', hcl'⟩ := h'.attempts i (hi.trans_le h.nextAttempt)
    exact ⟨hsess'.trans hsess, hnonce'.trans hnonce, fun ho => hcl' (hcl ho)⟩
  found {i} hi := by
    rcases h'.found hi with hfound | ⟨hge, hlt, hcl⟩
    · rcases h.found hfound with hfound | ⟨hge, hlt, hcl⟩
      · exact .inl hfound
      · exact .inr ⟨hge, hlt.trans_le h'.nextAttempt, (h'.attempts i hlt).2.2 hcl⟩
    · exact .inr ⟨h.nextAttempt.trans hge, hlt, hcl⟩

variable {s : Server} {sess : RealmSession} {k : ℕ}

lemma heap_setSession {α : Type} (f : RealmSession → α)
    (h : f sess = f (s.heap k)) (k' : ℕ) : f ((s.setSession k sess).heap k') = f (s.heap k') := by
  rcases eq_or_ne k' k with rfl | hne
  · rw [setSession_heap_self, h]
  · rw [setSession_heap_of_ne hne]

lemma similar_setSession (hsess : sess = { s.heap k with
      addresses := sess.addresses, expires := sess.expires, events := sess.events
      pending := sess.pending })
    (hevs : s.IsOpen k → (s.heap k).events.closed = false → sess.events.closed = false)
    (hpend : ∀ {nonce i}, sess.pending.get? nonce = some i →
      (s.heap k).pending.get? nonce = some i) :
    Similar s (s.setSession k sess) :=
  { Similar.refl s with
    closed := heap_setSession (·.closed) (by rw [hsess])
    id := heap_setSession (·.id) (by rw [hsess])
    realmID := heap_setSession (·.realmID) (by rw [hsess])
    username := heap_setSession (·.username) (by rw [hsess])
    channels := fun k' hk' hopen => by
      refine ⟨heap_setSession (·.done.closed) (by rw [hsess]) k', ?_⟩
      rcases eq_or_ne k' k with rfl | hne
      · rw [setSession_heap_self]
        exact hevs hk' hopen
      · rw [setSession_heap_of_ne hne]
        exact hopen
    pending := fun {k' nonce i} hi => by
      rcases eq_or_ne k' k with rfl | hne
      · rw [setSession_heap_self] at hi
        exact hpend hi
      · rw [setSession_heap_of_ne hne] at hi
        exact hi }

lemma similar_setAttempt {attempt : Attempt}
    (hsess : attempt.sess = (s.attempts i).sess) (hnonce : attempt.nonce = (s.attempts i).nonce)
    (hcl : (s.attempts i).respCh.closed = false → attempt.respCh.closed = false)
    (hstage : attempt.stage = .found → (s.attempts i).stage = .found) :
    Similar s (s.setAttempt i attempt) :=
  { Similar.refl s with
    attempts := fun i' _ => by
      rcases eq_or_ne i' i with rfl | hne
      · rw [setAttempt_attempts_self]
        exact ⟨hsess, hnonce, hcl⟩
      · rw [setAttempt_attempts_of_ne hne]
        exact ⟨rfl, rfl, fun h => h⟩
    found := fun {i'} hi' => by
      rcases eq_or_ne i' i with rfl | hne
      · rw [setAttempt_attempts_self] at hi'
        exact .inl (hstage hi')
      · rw [setAttempt_attempts_of_ne hne] at hi'
        exact .inl hi' }

lemma similar_heartbeat (addresses : Option (List String)) (now : ℕ) :
    Similar s (s.handleHeartbeat k addresses now) :=
  similar_setSession rfl (fun _ h => h) (fun h => h)

lemma similar_receiveEvent : Similar s (s.receiveEvent k) :=
  similar_setSession rfl (fun _ h => h) (fun h => h)

lemma similar_erase (s : Server) (k : ℕ) (nonce : String) : Similar s (s.setSession k
      { s.heap k with pending := (s.heap k).pending.erase nonce }) := by
  refine similar_setSession rfl (fun _ h => h) ?_
  intro nonce' i hi
  rw [get?_erase] at hi
  split_ifs at hi
  exact hi

lemma similar_cancelPending : Similar s (s.cancelPending i) := by
  refine (similar_erase s (s.attempts i).sess (s.attempts i).nonce).trans ?_
  exact similar_setAttempt rfl rfl (fun h => h) nofun

lemma similar_wake (reason : Wake) : Similar s (s.wake i reason) := by
  unfold wake
  dsimp only
  split
  · split
    · exact similar_setAttempt rfl rfl (fun h => h) nofun
    · split
      · exact similar_setAttempt rfl rfl (fun h => h) nofun
      · exact .refl s
  · exact similar_setAttempt rfl rfl (fun h => h) nofun
  · split
    · exact similar_setAttempt rfl rfl (fun h => h) nofun
    · exact .refl s
  · exact similar_setAttempt rfl rfl (fun h => h) nofun

lemma similar_handleConnect (realm nonce obfs : String) (addresses : List String)
    (now : ℕ) : Similar s (s.handleConnect realm nonce obfs addresses now) :=
  { Similar.refl s with
    nextAttempt := Nat.le_succ _
    attempts := fun i hi => by
      have hne : i ≠ s.nextAttempt := hi.ne
      simp only [handleConnect, setAttempt, update_of_ne hne]
      exact ⟨trivial, trivial, fun h => h⟩
    found := fun {i} hi => by
      rcases eq_or_ne i s.nextAttempt with rfl | hne
      · refine .inr ⟨le_rfl, Nat.lt_succ_self _, ?_⟩
        simp only [handleConnect, setAttempt, update_self]
        split
        · rfl
        · split <;> rfl
      · simp only [handleConnect, setAttempt, update_of_ne hne] at hi
        exact .inl hi }

lemma similar_sendEvent (h : Consistent s) (k : ℕ) (event : RealmEvent) :
    ∃ s' sent, s.sendEvent k event = some (s', sent) ∧ Similar s s' := by
  unfold sendEvent
  dsimp only
  split
  · exact ⟨s, false, rfl, .refl s⟩
  · next hopen =>
    have hk : s.IsOpen k := Bool.eq_false_iff.2 hopen
    obtain ⟨events, sent, hsend, hcl⟩ := trySend_eq_some (h.channels hk).2 event
    rw [hsend]
    exact ⟨_, sent, rfl, similar_setSession rfl (fun _ _ => hcl) fun h => h⟩

lemma sendEvent_attempts {event : RealmEvent} {sent : Bool}
    (h : s.sendEvent k event = some (s', sent)) : s'.attempts = s.attempts := by
  unfold sendEvent at h
  dsimp only at h
  split at h
  · obtain ⟨rfl, -⟩ := Prod.mk.injEq .. ▸ Option.some.inj h
    rfl
  · obtain ⟨⟨events, sent'⟩, -, heq⟩ := Option.bind_eq_some_iff.1 h
    obtain ⟨rfl, -⟩ := Prod.mk.injEq .. ▸ Option.some.inj heq
    rfl

lemma similar_sendPunch (h : Consistent s) (i : ℕ) :
    ∃ s', s.sendPunch i = some s' ∧ Similar s s' := by
  obtain ⟨s', sent, hsend, hs⟩ := similar_sendEvent h (s.attempts i).sess
    (.punch (s.attempts i).addresses (s.attempts i).nonce (s.attempts i).obfs)
  have hatts : s'.attempts = s.attempts := sendEvent_attempts hsend
  unfold sendPunch
  dsimp only
  rw [hsend]
  refine ⟨_, rfl, hs.trans (similar_setAttempt ?_ ?_ ?_ ?_)⟩
  · rw [hatts]
    cases sent <;> rfl
  · rw [hatts]
    cases sent <;> rfl
  · rw [hatts]
    cases sent <;> exact fun h => h
  · cases sent <;> exact nofun

lemma similar_deliverPending (h : Consistent s) (k : ℕ) (nonce : String) (addresses : List String) :
    ∃ s', s.deliverPending k nonce addresses = some s' ∧ Similar s s' := by
  unfold deliverPending
  dsimp only
  split
  · exact ⟨s, rfl, .refl s⟩
  · split
    · exact ⟨s, rfl, .refl s⟩
    · next i hi =>
      obtain ⟨-, -, -, -, hcl⟩ := h.pending hi
      obtain ⟨respCh, sent, hsend, hcl'⟩ := trySend_eq_some hcl addresses
      rw [hsend]
      refine ⟨_, rfl, ?_⟩
      refine (similar_erase s k nonce).trans ?_
      exact similar_setAttempt rfl rfl (fun _ => hcl') fun h => h

lemma consistent_put (h : Consistent s) (hk : s.IsOpen k)
    (hi : i < s.nextAttempt) (hsess : (s.attempts i).sess = k)
    (hcl : (s.attempts i).respCh.closed = false) (hstage : (s.attempts i).stage ≠ .found) :
    Consistent (s.setSession k
      { s.heap k with pending := (s.heap k).pending.put (s.attempts i).nonce i }) := by
  set s' := s.setSession k
    { s.heap k with pending := (s.heap k).pending.put (s.attempts i).nonce i } with hs'
  have hsame : ∀ {α : Type} (f : RealmSession → α),
      (f { s.heap k with pending := (s.heap k).pending.put (s.attempts i).nonce i } =
        f (s.heap k)) → ∀ k', f (s'.heap k') = f (s.heap k') := fun f hf => heap_setSession f hf
  have hopen : ∀ k', s'.IsOpen k' ↔ s.IsOpen k' := fun k' => by
    rw [IsOpen, IsOpen, hsame (·.closed) rfl k']
  -- What is pending now was pending before, or is the new attempt.
  have hpend : ∀ {k' nonce i'}, (s'.heap k').pending.get? nonce = some i' →
      (s.heap k').pending.get? nonce = some i' ∨
        k' = k ∧ nonce = (s.attempts i).nonce ∧ i' = i := by
    intro k' nonce i' hget
    rcases eq_or_ne k' k with rfl | hne
    · rw [hs', setSession_heap_self, get?_put] at hget
      split_ifs at hget with hnonce
      · exact .inr ⟨rfl, hnonce, (Option.some.inj hget).symm⟩
      · exact .inl hget
    · rw [hs', setSession_heap_of_ne hne] at hget
      exact .inl hget
  constructor
  case lt_next => exact fun {k'} hk' => h.lt_next ((hopen k').1 hk')
  case realms =>
    intro realm k'
    rw [hopen, hsame realmID rfl k']
    exact h.realms realm k'
  case sessions =>
    intro id k'
    rw [hopen, hsame RealmSession.id rfl k']
    exact h.sessions id k'
  case counted =>
    intro name
    have hsessions : s'.openSessions name = s.openSessions name := by
      simp only [openSessions, hopen, hsame (·.username) rfl]
      rfl
    rw [hsessions]
    exact h.counted name
  case channels =>
    intro k' hk'
    rw [hsame (·.done) rfl k', hsame (·.events) rfl k']
    exact h.channels ((hopen k').1 hk')
  case pending =>
    intro k' nonce i' hget
    rcases hpend hget with hold | ⟨rfl, rfl, rfl⟩
    · obtain ⟨hk', hatt⟩ := h.pending hold
      exact ⟨(hopen k').2 hk', hatt⟩
    · exact ⟨(hopen k').2 hk, hi, hsess, rfl, hcl⟩
  case found =>
    intro i' hi'
    obtain ⟨hlt, hcl', hnew⟩ := h.found hi'
    refine ⟨hlt, hcl', fun k' nonce hget => ?_⟩
    rcases hpend hget with hold | ⟨-, -, rfl⟩
    · exact hnew k' nonce hold
    · exact hstage hi'

lemma consistent_registerPending (h : Consistent s)
    (hi : (s.attempts i).stage = .found) : Consistent (s.registerPending i) := by
  obtain ⟨hlt, hcl, -⟩ := h.found hi
  unfold registerPending
  dsimp only
  split
  · next haccepts =>
    have hk : s.IsOpen (s.attempts i).sess := by
      simp only [accepts, Bool.and_eq_true, Bool.not_eq_true'] at haccepts
      exact haccepts.1.1
    -- First the attempt goes on, then its nonce becomes pending.
    set s' := s.setAttempt i { s.attempts i with stage := .registered } with hs'
    have hatt : s'.attempts i = { s.attempts i with stage := .registered } :=
      setAttempt_attempts_self s i _
    have h' : Consistent s' :=
      h.of_similar (similar_setAttempt rfl rfl (fun h => h) fun h => Stage.noConfusion h)
    have hstage : (s'.attempts i).stage ≠ .found := by
      rw [hatt]
      exact fun h => Stage.noConfusion h
    have hput := consistent_put h' (k := (s.attempts i).sess) (i := i) hk hlt
      (by rw [hatt]) (by rw [hatt]; exact hcl) hstage
    rw [hatt] at hput
    exact hput
  · exact h.of_similar (similar_setAttempt rfl rfl (fun h => h) fun h => Stage.noConfusion h)

/-! ### A new session -/

lemma userCount_put (s : Server) (name name' : String) (count : ℤ) :
    ((s.userCounts.put name count).get? name').getD 0 =
    if name' = name then count else s.userCount name' := by
  rw [get?_put, userCount]
  split <;> rfl

lemma addSession_heap_self : (s.addSession sess).heap s.next = sess := by simp [addSession]

lemma addSession_heap_of_ne (h : k ≠ s.next) (sess : RealmSession) :
    (s.addSession sess).heap k = s.heap k := by simp [addSession, h]

lemma isOpen_addSession (hopen : sess.closed = false) (k : ℕ) :
    (s.addSession sess).IsOpen k ↔ k = s.next ∨ s.IsOpen k := by
  rcases eq_or_ne k s.next with rfl | hne
  · simp [IsOpen, addSession_heap_self, hopen]
  · simp [IsOpen, addSession_heap_of_ne hne, hne]

lemma TableOf.put (h : s.TableOf table field) (hopen : sess.closed = false)
    (hnext : ¬s.IsOpen s.next) (hnew : ∀ k, s.IsOpen k → field (s.heap k) ≠ field sess) :
    (s.addSession sess).TableOf (table.put (field sess) s.next) field := by
  intro key k
  rw [isOpen_addSession hopen, get?_put]
  rcases eq_or_ne k s.next with rfl | hne
  · rw [addSession_heap_self, eq_self, true_or, true_and]
    split_ifs with hkey
    · simp [hkey]
    · refine ⟨fun hget => absurd ((h key s.next).1 hget).1 hnext, fun heq => ?_⟩
      exact absurd heq.symm hkey
  · rw [addSession_heap_of_ne hne, or_iff_right hne]
    split_ifs with hkey
    · refine ⟨fun heq => absurd (Option.some.inj heq).symm hne, ?_⟩
      rintro ⟨hk, hfield⟩
      exact absurd (hfield.trans hkey) (hnew k hk)
    · exact h key k

lemma openSessions_addSession (hopen : sess.closed = false) (name : String) :
    (s.addSession sess).openSessions name =
    if name = sess.username then insert s.next (s.openSessions name)
    else s.openSessions name := by
  ext k
  have hmem : k ∈ (s.addSession sess).openSessions name ↔
      k < s.next + 1 ∧ (k = s.next ∨ s.IsOpen k) ∧
        ((s.addSession sess).heap k).username = name := by
    rw [openSessions, Finset.mem_filter, Finset.mem_range, isOpen_addSession hopen]
    rfl
  rw [hmem]
  rcases eq_or_ne k s.next with rfl | hne
  · rw [addSession_heap_self]
    split_ifs with hname
    · simp [hname]
    · simp [openSessions, Ne.symm hname]
  · rw [addSession_heap_of_ne hne, or_iff_right hne]
    have hlt : k < s.next + 1 ↔ k < s.next := by omega
    split_ifs with hname
    · simp [openSessions, hne, hlt]
    · simp [openSessions, hlt]

lemma consistent_addSession (h : Consistent s)
    (hrealm : s.realms.get? sess.realmID = none) (hid : ∀ k < s.next, (s.heap k).id ≠ sess.id)
    (hopen : sess.closed = false) (hdone : sess.done.closed = false)
    (hevs : sess.events.closed = false) (hpend : ∀ nonce, sess.pending.get? nonce = none) :
    Consistent (s.addSession sess) := by
  have hnext : ¬s.IsOpen s.next := fun hk => lt_irrefl _ (h.lt_next hk)
  constructor
  case lt_next =>
    intro k hk
    rcases (isOpen_addSession hopen k).1 hk with rfl | hk
    · exact Nat.lt_succ_self _
    · exact Nat.lt_succ_of_lt (h.lt_next hk)
  case realms =>
    refine h.realms.put hopen hnext fun k hk heq => ?_
    rw [(h.realms _ k).2 ⟨hk, heq⟩] at hrealm
    nomatch hrealm
  case sessions => exact h.sessions.put hopen hnext fun k hk => hid k (h.lt_next hk)
  case counted =>
    intro name
    have hcnt : (s.addSession sess).userCount name =
        if name = sess.username then s.userCount sess.username + 1 else s.userCount name :=
      userCount_put s sess.username name _
    rw [hcnt, openSessions_addSession hopen]
    split_ifs with hname
    · have hnot : s.next ∉ s.openSessions name := by simp [openSessions]
      rw [Finset.card_insert_of_notMem hnot, hname, h.counted]
      push_cast
      rfl
    · exact h.counted name
  case channels =>
    intro k hk
    rcases eq_or_ne k s.next with rfl | hne
    · rw [addSession_heap_self]
      exact ⟨hdone, hevs⟩
    · rw [addSession_heap_of_ne hne]
      exact h.channels (((isOpen_addSession hopen k).1 hk).resolve_left hne)
  case pending =>
    intro k nonce i hget
    rcases eq_or_ne k s.next with rfl | hne
    · rw [addSession_heap_self, hpend] at hget
      nomatch hget
    · rw [addSession_heap_of_ne hne] at hget
      obtain ⟨hk, hatt⟩ := h.pending hget
      exact ⟨(isOpen_addSession hopen k).2 (.inr hk), hatt⟩
  case found =>
    intro i hi
    obtain ⟨hlt, hcl, hnew⟩ := h.found hi
    refine ⟨hlt, hcl, fun k nonce hget => ?_⟩
    rcases eq_or_ne k s.next with rfl | hne
    · rw [addSession_heap_self, hpend] at hget
      nomatch hget
    · rw [addSession_heap_of_ne hne] at hget
      exact hnew k nonce hget

lemma consistent_handleRegister (h : Consistent s) (user : RealmUser)
    (realm : String) (addresses : List String) (now : ℕ) {id : Option String}
    (hid : ∀ k < s.next, some (s.heap k).id ≠ id) :
    Consistent (s.handleRegister user realm addresses now id) := by
  unfold handleRegister
  split
  · exact h
  · next hrealm =>
    split
    · exact h
    · cases id with
      | none => exact h
      | some id =>
        refine consistent_addSession h ?_ ?_ rfl rfl rfl fun _ => rfl
        · exact Option.not_isSome_iff_eq_none.1 hrealm
        · exact fun k hk heq => hid k hk (congrArg some heq)

/-! ### Removing a session -/

def hangUp (attempt : Attempt) : Attempt :=
  { attempt with respCh := { attempt.respCh with closed := true } }

lemma closePending_eq {attempts : ℕ → Attempt} {pending : List (String × ℕ)}
    (hnodup : (pending.map Prod.snd).Nodup)
    (hopen : ∀ i ∈ pending.map Prod.snd, (attempts i).respCh.closed = false) :
    closePending attempts pending = some fun i =>
    if i ∈ pending.map Prod.snd then hangUp (attempts i) else attempts i := by
  induction pending generalizing attempts with
  | nil => simp [closePending]
  | cons entry pending ih =>
    rw [map_cons, nodup_cons] at hnodup
    have hfst : (attempts entry.2).respCh.close =
        some { (attempts entry.2).respCh with closed := true } :=
      close_eq_some (hopen entry.2 (by simp))
    have hothers : ∀ i ∈ pending.map Prod.snd,
        (update attempts entry.2 (hangUp (attempts entry.2)) i).respCh.closed = false := by
      intro i hi
      have hne : i ≠ entry.2 := fun heq => hnodup.1 (heq ▸ hi)
      rw [update_of_ne hne]
      exact hopen i (mem_cons_of_mem _ hi)
    rw [closePending, foldlM_cons, hfst]
    refine (ih hnodup.2 hothers).trans (congrArg some (funext fun i => ?_))
    rcases eq_or_ne i entry.2 with rfl | hne
    · simp [hnodup.1]
    · simp only [map_cons, mem_cons, hne, false_or, update_of_ne hne]

def shut (sess : RealmSession) : RealmSession := { sess with
    closed := true
    done := { sess.done with closed := true }
    events := { sess.events with closed := true }
    pending := {} }

def removed (s : Server) (k : ℕ) : Server :=
  let sess := s.heap k
  { s with
    realms := s.realms.erase sess.realmID
    sessions := s.sessions.erase sess.id
    userCounts := lessOne s.userCounts sess.username
    attempts := fun i =>
      if i ∈ sess.pending.entries.map Prod.snd then hangUp (s.attempts i) else s.attempts i
    heap := update s.heap k (shut sess) }

lemma removed_heap_self : (s.removed k).heap k = shut (s.heap k) := by
  simp [removed]

lemma removed_heap_of_ne {k k' : ℕ} (h : k' ≠ k) : (s.removed k).heap k' = s.heap k' := by
  simp [removed, h]

lemma isOpen_removed {k' : ℕ} : (s.removed k).IsOpen k' ↔ k' ≠ k ∧ s.IsOpen k' := by
  rcases eq_or_ne k' k with rfl | hne
  · simp [IsOpen, removed_heap_self, shut]
  · simp [IsOpen, removed_heap_of_ne hne, hne]

lemma removeSessionLocked_eq (h : Consistent s) (hk : s.IsOpen k) :
    s.removeSessionLocked k = some (s.removed k) := by
  obtain ⟨hdone, hevs⟩ := h.channels hk
  have hrealm : s.realms.get? (s.heap k).realmID = some k := (h.realms _ k).2 ⟨hk, rfl⟩
  have hsess : s.sessions.get? (s.heap k).id = some k := (h.sessions _ k).2 ⟨hk, rfl⟩
  have hpend : ∀ entry ∈ (s.heap k).pending.entries,
      (s.attempts entry.2).nonce = entry.1 ∧ (s.attempts entry.2).respCh.closed = false := by
    intro entry hent
    obtain ⟨-, -, -, hnonce, hcl⟩ := h.pending (get?_eq_some_iff.2 hent)
    exact ⟨hnonce, hcl⟩
  have hnodup : ((s.heap k).pending.entries.map Prod.snd).Nodup := by
    refine List.Nodup.map_on ?_ (List.Nodup.of_map _ (s.heap k).pending.nodup)
    intro entry hent entry' hent' heq
    refine Prod.ext ?_ heq
    rw [← (hpend entry hent).1, ← (hpend entry' hent').1, heq]
  have hopen : ∀ i ∈ (s.heap k).pending.entries.map Prod.snd,
      (s.attempts i).respCh.closed = false := by
    intro i hi
    obtain ⟨entry, hent, rfl⟩ := mem_map.1 hi
    exact (hpend entry hent).2
  unfold removeSessionLocked
  rw [if_neg (by rw [hk]; exact Bool.false_ne_true), close_eq_some hdone,
    close_eq_some hevs, closePending_eq hnodup hopen, if_pos hrealm, hsess]
  rfl

lemma TableOf.erase (h : s.TableOf table field) (hk : s.IsOpen k) :
    (s.removed k).TableOf (table.erase (field (s.heap k))) field := by
  intro key k'
  rw [isOpen_removed, get?_erase]
  split_ifs with hkey
  · refine ⟨False.elim, ?_⟩
    rintro ⟨⟨hne, hk'⟩, hfield⟩
    rw [removed_heap_of_ne hne, hkey] at hfield
    have hsame := (h _ k').2 ⟨hk', hfield⟩
    rw [(h _ k).2 ⟨hk, rfl⟩] at hsame
    exact absurd (Option.some.inj hsame).symm hne
  · rw [h key k']
    constructor
    · rintro ⟨hk', hfield⟩
      have hne : k' ≠ k := by
        rintro rfl
        exact hkey hfield.symm
      rw [removed_heap_of_ne hne]
      exact ⟨⟨hne, hk'⟩, hfield⟩
    · rintro ⟨⟨hne, hk'⟩, hfield⟩
      rw [removed_heap_of_ne hne] at hfield
      exact ⟨hk', hfield⟩

lemma openSessions_removed (name : String) :
    (s.removed k).openSessions name = (s.openSessions name).erase k := by
  ext k'
  rw [Finset.mem_erase, openSessions, openSessions, Finset.mem_filter, Finset.mem_filter,
    isOpen_removed]
  rcases eq_or_ne k' k with rfl | hne
  · simp
  · simp [hne, removed]

lemma lessOne_get? {userCounts : OrderedMap String ℤ} {name : String}
    (hpos : 0 < (userCounts.get? name).getD 0) (name' : String) :
    ((lessOne userCounts name).get? name').getD 0 =
    if name' = name then (userCounts.get? name).getD 0 - 1
    else (userCounts.get? name').getD 0 := by
  unfold lessOne
  dsimp only
  split
  · next hle =>
    rw [get?_erase]
    split_ifs with hname
    · rw [Option.getD_none]
      omega
    · rfl
  · rw [get?_put]
    split_ifs with hname <;> rfl

lemma consistent_removed (h : Consistent s) (hk : s.IsOpen k) : Consistent (s.removed k) := by
  have hatt : ∀ {i}, (∀ nonce, (s.heap k).pending.get? nonce ≠ some i) →
      (s.removed k).attempts i = s.attempts i := by
    intro i hi
    refine if_neg fun hmem => ?_
    obtain ⟨entry, hent, rfl⟩ := mem_map.1 hmem
    exact hi entry.1 (get?_eq_some_iff.2 hent)
  -- What is still pending belongs to another session.
  have hpend : ∀ {k' nonce i}, ((s.removed k).heap k').pending.get? nonce = some i →
      k' ≠ k ∧ (s.heap k').pending.get? nonce = some i := by
    intro k' nonce i hget
    rcases eq_or_ne k' k with rfl | hne
    · rw [removed_heap_self] at hget
      nomatch hget
    · rw [removed_heap_of_ne hne] at hget
      exact ⟨hne, hget⟩
  constructor
  case lt_next => exact fun {k'} hk' => h.lt_next (isOpen_removed.1 hk').2
  case realms => exact h.realms.erase hk
  case sessions => exact h.sessions.erase hk
  case counted =>
    intro name
    have hmem : k ∈ s.openSessions (s.heap k).username := by
      rw [openSessions, Finset.mem_filter, Finset.mem_range]
      exact ⟨h.lt_next hk, hk, rfl⟩
    have hpos : 0 < s.userCount (s.heap k).username := by
      rw [h.counted]
      exact_mod_cast Finset.card_pos.2 ⟨k, hmem⟩
    have hcnt : (s.removed k).userCount name =
        if name = (s.heap k).username then s.userCount (s.heap k).username - 1
        else s.userCount name := lessOne_get? hpos name
    rw [hcnt, openSessions_removed]
    split_ifs with hname
    · rw [hname, Finset.card_erase_of_mem hmem, h.counted]
      have hcard := Finset.card_pos.2 ⟨k, hmem⟩
      omega
    · rw [Finset.erase_eq_of_notMem, h.counted]
      intro hk'
      rw [openSessions, Finset.mem_filter] at hk'
      exact hname hk'.2.2.symm
  case channels =>
    intro k' hk'
    obtain ⟨hne, hk'⟩ := isOpen_removed.1 hk'
    rw [removed_heap_of_ne hne]
    exact h.channels hk'
  case pending =>
    intro k' nonce i hget
    obtain ⟨hne, hget⟩ := hpend hget
    obtain ⟨hk', hlt, hsess, hatt'⟩ := h.pending hget
    have hkeep : (s.removed k).attempts i = s.attempts i := by
      refine hatt fun nonce' hget' => hne ?_
      exact hsess.symm.trans (h.pending hget').2.2.1
    rw [hkeep]
    exact ⟨isOpen_removed.2 ⟨hne, hk'⟩, hlt, hsess, hatt'⟩
  case found =>
    intro i hi
    have hstage : (s.attempts i).stage = .found := by
      rw [← hi]
      simp only [removed, hangUp]
      split <;> rfl
    obtain ⟨hlt, hcl, hnew⟩ := h.found hstage
    rw [hatt (hnew k)]
    exact ⟨hlt, hcl, fun k' nonce hget => hnew k' nonce (hpend hget).2⟩

lemma consistent_removeSessionLocked (h : Consistent s) (k : ℕ) :
    ∃ s', s.removeSessionLocked k = some s' ∧ Consistent s' ∧
    ∀ name, s'.userCount name ≤ s.userCount name := by
  by_cases hk : s.IsOpen k
  · have h' := consistent_removed h hk
    refine ⟨s.removed k, removeSessionLocked_eq h hk, h', fun name => ?_⟩
    rw [h.counted, h'.counted, openSessions_removed]
    exact_mod_cast Finset.card_le_card (Finset.erase_subset _ _)
  · refine ⟨s, if_pos ?_, h, fun _ => le_rfl⟩
    simpa [IsOpen] using hk

lemma consistent_removeExpiredSession (h : Consistent s) (k now : ℕ) :
    ∃ s', s.removeExpiredSession k now = some s' ∧ Consistent s' ∧
    ∀ name, s'.userCount name ≤ s.userCount name := by
  unfold removeExpiredSession
  split
  · exact ⟨s, rfl, h, fun _ => le_rfl⟩
  · exact consistent_removeSessionLocked h k

lemma consistent_closeAll (h : Consistent s) (order : List ℕ) :
    ∃ s', s.closeAll order = some s' ∧ Consistent s' ∧
    ∀ name, s'.userCount name ≤ s.userCount name := by
  induction order generalizing s with
  | nil => exact ⟨s, rfl, h, fun _ => le_rfl⟩
  | cons k order ih =>
    obtain ⟨s₁, hrm, h₁, hle₁⟩ := consistent_removeSessionLocked h k
    obtain ⟨s₂, hclose, h₂, hle₂⟩ := ih h₁
    refine ⟨s₂, ?_, h₂, fun name => (hle₂ name).trans (hle₁ name)⟩
    rw [closeAll, foldlM_cons, hrm]
    exact hclose

/-! ### The limits -/

/-- Counters grow only by one, for a user whose limit allows it. -/
def Grows (users : List RealmUser) (s s' : Server) : Prop :=
  (∀ name, s'.userCount name ≤ s.userCount name) ∨
    ∃ user ∈ users, (0 < user.maxRealms → s.userCount user.name < user.maxRealms) ∧
      ∀ name, s'.userCount name =
        if name = user.name then s.userCount user.name + 1 else s.userCount name

variable {users : List RealmUser}

lemma grows_of_similar (h : Similar s s') : Grows users s s' := by
  refine .inl fun name => ?_
  rw [userCount, userCount, h.userCounts]

lemma grows_handleRegister {user : RealmUser}
    (huser : user ∈ users) (realm : String) (addresses : List String) (now : ℕ)
    (id : Option String) : Grows users s (s.handleRegister user realm addresses now id) := by
  unfold handleRegister
  split
  · exact .inl fun _ => le_rfl
  · split
    · exact .inl fun _ => le_rfl
    · next hlimit =>
      cases id with
      | none => exact .inl fun _ => le_rfl
      | some id =>
        refine .inr ⟨user, huser, fun hpos => ?_, fun name => ?_⟩
        · exact lt_of_not_ge fun hge => hlimit ⟨hpos, hge⟩
        · exact userCount_put s user.name name _

lemma exec_consistent (h : Consistent s) {action : Action} (hp : s.Possible users action) :
    ∃ s', s.exec action = some s' ∧ Consistent s' ∧ Grows users s s' := by
  have hsimilar : ∀ {s' : Server}, Similar s s' → Consistent s' ∧ Grows users s s' :=
    fun hs => ⟨h.of_similar hs, grows_of_similar hs⟩
  cases action with
  | register user realm addresses now id =>
    exact ⟨_, rfl, consistent_handleRegister h user realm addresses now hp.2,
      grows_handleRegister hp.1 realm addresses now id⟩
  | deregister k =>
    obtain ⟨s', hs', h', hle⟩ := consistent_removeSessionLocked h k
    exact ⟨s', hs', h', .inl hle⟩
  | heartbeat k addresses now => exact ⟨_, rfl, hsimilar (similar_heartbeat addresses now)⟩
  | acknowledge k =>
    obtain ⟨s', sent, hs', hs⟩ := similar_sendEvent h k (.heartbeatAck sessionTTL)
    exact ⟨s', by rw [exec, hs', Option.map_some], hsimilar hs⟩
  | expire k now =>
    obtain ⟨s', hs', h', hle⟩ := consistent_removeExpiredSession h k now
    exact ⟨s', hs', h', .inl hle⟩
  | closeAll order =>
    obtain ⟨s', hs', h', hle⟩ := consistent_closeAll h order
    exact ⟨s', hs', h', .inl hle⟩
  | receiveEvent k => exact ⟨_, rfl, hsimilar similar_receiveEvent⟩
  | connect realm nonce obfs addresses now =>
    exact ⟨_, rfl, hsimilar (similar_handleConnect realm nonce obfs addresses now)⟩
  | registerPending i =>
    refine ⟨_, rfl, consistent_registerPending h hp, .inl fun name => le_of_eq ?_⟩
    rw [registerPending]
    split <;> rfl
  | sendPunch i =>
    obtain ⟨s', hs', hs⟩ := similar_sendPunch h i
    exact ⟨s', hs', hsimilar hs⟩
  | wake i reason => exact ⟨_, rfl, hsimilar (similar_wake reason)⟩
  | cancelPending i => exact ⟨_, rfl, hsimilar similar_cancelPending⟩
  | respond k nonce addresses =>
    obtain ⟨s', hs', hs⟩ := similar_deliverPending h k nonce addresses
    exact ⟨s', hs', hsimilar hs⟩

end Server

/-- What `handleRegister` grants a name: the largest limit of the entries with this name, and none
if one of them sets no limit. The counter belongs to the name, while each registration is checked
against the limit of the entry whose token it brings. -/
def realmLimit (users : List RealmUser) (name : String) : Option ℤ :=
  let limits := (users.filter (·.name = name)).map RealmUser.maxRealms
  if ∀ limit ∈ limits, 0 < limit then limits.max? else none

variable {users : List RealmUser}

lemma realmLimit_eq_some {name : String} {limit : ℤ} (h : realmLimit users name = some limit) :
    0 < limit ∧ ∀ user ∈ users, user.name = name → 0 < user.maxRealms ∧ user.maxRealms ≤ limit := by
  unfold realmLimit at h
  dsimp only at h
  split_ifs at h with hpos
  obtain ⟨hmem, hle⟩ := max?_eq_some_iff.1 h
  refine ⟨hpos limit hmem, fun user huser hname => ?_⟩
  have huser : user.maxRealms ∈ (users.filter (·.name = name)).map RealmUser.maxRealms :=
    mem_map_of_mem (mem_filter.2 ⟨huser, by simpa using hname⟩)
  exact ⟨hpos _ huser, hle _ huser⟩

def Limited (users : List RealmUser) (s : Server) : Prop :=
  ∀ name limit, realmLimit users name = some limit → s.userCount name ≤ limit

lemma Limited.of_grows {s s' : Server} (h : Limited users s)
    (hs : Grows users s s') : Limited users s' := by
  intro name limit hlimit
  rcases hs with hle | ⟨user, huser, hroom, hcnt⟩
  · exact (hle name).trans (h name limit hlimit)
  · rw [hcnt]
    split_ifs with hname
    · obtain ⟨hpos, hle⟩ := (realmLimit_eq_some hlimit).2 user huser hname.symm
      omega
    · exact h name limit hlimit

structure Safe (users : List RealmUser) (s : Server) : Prop where
  counted : ∀ name, s.userCount name = (s.openSessions name).card
  limited : ∀ name limit, realmLimit users name = some limit → s.userCount name ≤ limit
  /-- A registration stays within the limit of its entry. -/
  registered : ∀ user realm addresses now id, 0 < user.maxRealms →
    (s.handleRegister user realm addresses now id).next ≠ s.next →
      (s.handleRegister user realm addresses now id).userCount user.name ≤ user.maxRealms
  realms : ∀ realm k, s.realms.get? realm = some k → s.IsOpen k ∧ (s.heap k).realmID = realm
  sessions : ∀ id k, s.sessions.get? id = some k → s.IsOpen k ∧ (s.heap k).id = id
  unique : ∀ k k', s.IsOpen k → s.IsOpen k' → (s.heap k).realmID = (s.heap k').realmID → k = k'
  /-- No channel is closed twice or sent on after that. -/
  running : ∀ action, s.Possible users action → (s.exec action).isSome

lemma registered_le (s : Server) (user : RealmUser) (realm : String) (addresses : List String)
    (now : ℕ) (id : Option String) (hpos : 0 < user.maxRealms)
    (hnext : (s.handleRegister user realm addresses now id).next ≠ s.next) :
    (s.handleRegister user realm addresses now id).userCount user.name ≤ user.maxRealms := by
  unfold handleRegister at hnext ⊢
  split_ifs at hnext ⊢ with hrealm hlimit
  · exact absurd rfl hnext
  · exact absurd rfl hnext
  · cases id with
    | none => exact absurd rfl hnext
    | some id =>
      have hlt : s.userCount user.name < user.maxRealms :=
        lt_of_not_ge fun hge => hlimit ⟨hpos, hge⟩
      refine (userCount_put s user.name user.name _).trans_le ?_
      rw [if_pos rfl]
      exact hlt

/-- The tables hold only open sessions, the counters are their numbers and within the limits, and no
step panics. -/
theorem safe_of_run (users : List RealmUser) {s : Server}
    (h : Run Server.step (fun s action => s.Possible users action) {} s) : Safe users s := by
  have hinv : Consistent s ∧ Limited users s := by
    refine h.invariant (I := fun s => Consistent s ∧ Limited users s) ⟨consistent_empty, ?_⟩ ?_
    · intro name limit hlimit
      exact (realmLimit_eq_some hlimit).1.le
    · rintro s action ⟨hs, hlimited⟩ hp
      obtain ⟨s', hs', hcons, hgrows⟩ := exec_consistent hs hp
      rw [Server.step, hs', Option.getD_some]
      exact ⟨hcons, hlimited.of_grows hgrows⟩
  obtain ⟨hs, hlimited⟩ := hinv
  constructor
  case counted => exact hs.counted
  case limited => exact hlimited
  case registered => exact registered_le s
  case realms => exact fun realm k => (hs.realms realm k).1
  case sessions => exact fun id k => (hs.sessions id k).1
  case unique =>
    intro k k' hk hk' hrealm
    have hget := (hs.realms _ k).2 ⟨hk, hrealm⟩
    rw [(hs.realms _ k').2 ⟨hk', rfl⟩] at hget
    exact (Option.some.inj hget).symm
  case running =>
    intro action hp
    obtain ⟨s', hs', -, -⟩ := exec_consistent hs hp
    rw [hs', Option.isSome_some]

/-- A nonce as `validateHexField` wants it: 32 hexadecimal characters. -/
def hexNonce : String := "000102030405060708090a0b0c0d0e0f"

/-- An `obfs` field: 64 hexadecimal characters. -/
def hexObfs : String := "000102030405060708090a0b0c0d0e0f101112131415161718191a1b1c1d1e1f"

def lateActions : List Action :=
  [.register ⟨"alice", 1⟩ "home" ["192.0.2.1:443"] 0 (some "a"),
    .register ⟨"alice", 1⟩ "office" ["192.0.2.2:443"] 0 (some "b"),
    .register ⟨"bob", 0⟩ "office" ["192.0.2.3:443"] 0 (some "b"),
    .connect "home" hexNonce hexObfs ["198.51.100.1:443"] 1, .registerPending 0, .sendPunch 0,
    .heartbeat 1 none 50, .acknowledge 1, .respond 0 hexNonce ["192.0.2.4:443"],
    .wake 0 .response, .expire 0 61, .deregister 0, .cancelPending 0]

theorem safe_of_run_late : Safe [⟨"alice", 1⟩, ⟨"bob", 0⟩] (lateActions.foldl .step {}) ∧
      (lateActions.foldl Server.step {}).userCount "alice" = 0 ∧
      (lateActions.foldl Server.step {}).userCount "bob" = 1 :=
  ⟨safe_of_run _ (.foldl .start (by decide +kernel)), by decide +kernel, by decide +kernel⟩

/-- Two entries share the name `alice`: with the second one the counter of the name goes above the
limit of the first. -/
theorem not_limited_first_entry : ∃ s : Server,
      Run Server.step (fun s action => s.Possible [⟨"alice", 1⟩, ⟨"alice", 3⟩] action) {} s ∧
      realmLimit [⟨"alice", 1⟩, ⟨"alice", 3⟩] "alice" = some 3 ∧
      s.userCount "alice" = 2 ∧ (s.openSessions "alice").card = 2 :=
  ⟨[.register ⟨"alice", 3⟩ "home" ["192.0.2.1:443"] 0 (some "a"),
      .register ⟨"alice", 3⟩ "office" ["192.0.2.2:443"] 0 (some "b")].foldl Server.step {},
    .foldl .start (by decide +kernel), by decide +kernel, by decide +kernel, by decide +kernel⟩

end SingBox.Realm
