import SingBox.Hysteria2.RealmSessions

/-!
# Pending connect attempts

An attempt is found by its nonce, and so is the entry that its deferred `cancelPending` removes. If
no nonce is reused, an entry belongs to one attempt (`Exclusive`) and goes away in three ways only.
-/

namespace SingBox.Realm
open Server Option Stage

def Stage.holds : Stage → Bool
  | .registered | .waiting | .ending => true
  | .found | .ended => false

def Stage.waits : Stage → Bool
  | .registered | .waiting => true
  | .found | .ending | .ended => false

lemma Stage.holds_of_waits {stage : Stage} (h : stage.waits) : stage.holds := by
  cases stage <;> first | rfl | nomatch h

namespace Server

/-- Pending entries belong to attempts that have not ended, one for each. -/
structure Exclusive (s : Server) : Prop where
  owner : ∀ {k nonce i}, (s.heap k).pending.get? nonce = some i →
    (s.attempts i).stage.holds ∧ (s.attempts i).respCh.buffer = [] ∧
      (s.attempts i).respCh.capacity = 1
  unique : ∀ {i j}, (s.attempts i).stage.holds → (s.attempts j).stage.holds →
    (s.attempts i).sess = (s.attempts j).sess → (s.attempts i).nonce = (s.attempts j).nonce → i = j
  entry : ∀ {i}, (s.attempts i).stage.waits → s.IsOpen (s.attempts i).sess →
    (s.attempts i).respCh.buffer = [] →
      (s.heap (s.attempts i).sess).pending.get? (s.attempts i).nonce = some i
  fresh : ∀ {i}, (s.attempts i).stage = .found →
    (s.attempts i).respCh.buffer = [] ∧ (s.attempts i).respCh.capacity = 1
  lt_next : ∀ {i}, (s.attempts i).stage ≠ .ended → i < s.nextAttempt ∧ (s.attempts i).sess < s.next

lemma exclusive_empty : Exclusive {} where
  owner h := nomatch h
  unique h := nomatch h
  entry h := nomatch h
  fresh h := nomatch h
  lt_next h := absurd rfl h

/-! ### Steps that keep the attempts -/

structure Goes (a a' : Attempt) : Prop where
  sess : a'.sess = a.sess
  nonce : a'.nonce = a.nonce
  capacity : a'.respCh.capacity = a.respCh.capacity
  buffer : a.respCh.buffer = [] → a'.respCh.buffer = []
  holds : a'.stage.holds = a.stage.holds
  waits : a'.stage.waits → a.stage.waits ∧ a'.respCh.buffer = a.respCh.buffer
  found : a'.stage = .found → a.stage = .found
  ended : a'.stage ≠ .ended → a.stage ≠ .ended

lemma Goes.refl (a : Attempt) : Goes a a where
  sess := rfl
  nonce := rfl
  capacity := rfl
  buffer h := h
  holds := rfl
  waits h := ⟨h, rfl⟩
  found h := h
  ended h := h

structure Quiet (s s' : Server) : Prop where
  next : s.next ≤ s'.next
  nextAttempt : s.nextAttempt ≤ s'.nextAttempt
  sessions : ∀ k, (∀ nonce, (s'.heap k).pending.get? nonce = (s.heap k).pending.get? nonce) ∧
        (s'.IsOpen k → s.IsOpen k ∨ s.next ≤ k) ∨
      ¬s'.IsOpen k ∧ ∀ nonce, (s'.heap k).pending.get? nonce = none
  attempts : ∀ i, Goes (s.attempts i) (s'.attempts i) ∨
    (∀ k nonce, (s.heap k).pending.get? nonce ≠ some i) ∧ (s'.attempts i).stage.holds = false ∧
      ((s'.attempts i).stage = .found → (i < s'.nextAttempt ∧ (s'.attempts i).sess < s'.next) ∧
        (s'.attempts i).respCh.buffer = [] ∧ (s'.attempts i).respCh.capacity = 1)

variable {i : ℕ} {nonce : String} {k : ℕ}
  {s' : Server} {a a' attempt : Attempt} {sess : RealmSession}
variable {s : Server}

lemma Quiet.get? (h : Quiet s s') (hget : (s'.heap k).pending.get? nonce = some i) :
    (s.heap k).pending.get? nonce = some i := by
  rcases h.sessions k with ⟨hsame, -⟩ | ⟨-, hnone⟩
  · rw [← hsame]
    exact hget
  · rw [hnone] at hget
    nomatch hget

lemma Quiet.goes (h : Quiet s s')
    (hi : (s'.attempts i).stage.holds) : Goes (s.attempts i) (s'.attempts i) := by
  rcases h.attempts i with hgoes | ⟨-, hnot, -⟩
  · exact hgoes
  · rw [hnot] at hi
    nomatch hi

lemma Exclusive.of_quiet (h : Exclusive s) (hs : Quiet s s') : Exclusive s' := by
  constructor
  case owner =>
    intro k nonce i hget
    obtain ⟨hholds, hbuf, hcap⟩ := h.owner (hs.get? hget)
    rcases hs.attempts i with hgoes | ⟨hnone, -, -⟩
    · exact ⟨hgoes.holds.trans hholds, hgoes.buffer hbuf, hgoes.capacity.trans hcap⟩
    · exact absurd (hs.get? hget) (hnone k nonce)
  case unique =>
    intro i j hi hj hsess hnonce
    have hi' := hs.goes hi
    have hj' := hs.goes hj
    refine h.unique (hi'.holds.symm.trans hi) (hj'.holds.symm.trans hj) ?_ ?_
    · rw [← hi'.sess, ← hj'.sess, hsess]
    · rw [← hi'.nonce, ← hj'.nonce, hnonce]
  case entry =>
    intro i hi hopen hbuf
    have hgoes := hs.goes (holds_of_waits hi)
    obtain ⟨hwaits, hsame⟩ := hgoes.waits hi
    rw [hgoes.sess] at hopen ⊢
    rw [hgoes.nonce]
    rcases hs.sessions (s.attempts i).sess with ⟨hget, hold⟩ | ⟨hcl, -⟩
    · rw [hget]
      refine h.entry hwaits ?_ (hsame ▸ hbuf)
      refine (hold hopen).resolve_right (not_le.2 (h.lt_next fun hended => ?_).2)
      rw [hended] at hwaits
      nomatch hwaits
    · exact absurd hopen hcl
  case fresh =>
    intro i hi
    rcases hs.attempts i with hgoes | ⟨-, -, hnew⟩
    · obtain ⟨hbuf, hcap⟩ := h.fresh (hgoes.found hi)
      exact ⟨hgoes.buffer hbuf, hgoes.capacity.trans hcap⟩
    · exact (hnew hi).2
  case lt_next =>
    intro i hi
    rcases hs.attempts i with hgoes | ⟨-, hnot, hnew⟩
    · rw [hgoes.sess]
      obtain ⟨hlt, hsess⟩ := h.lt_next (hgoes.ended hi)
      exact ⟨hlt.trans_le hs.nextAttempt, hsess.trans_le hs.next⟩
    · have hfound : (s'.attempts i).stage = .found := by
        cases hstage : (s'.attempts i).stage with
        | found => rfl
        | ended => exact absurd hstage hi
        | registered | waiting | ending =>
          rw [hstage] at hnot
          nomatch hnot
      exact (hnew hfound).1

structure Calm (s s' : Server) : Prop where
  next : s'.next = s.next
  nextAttempt : s'.nextAttempt = s.nextAttempt
  opens : ∀ {k}, s'.IsOpen k → s.IsOpen k
  sessions : ∀ k, (∀ nonce, (s'.heap k).pending.get? nonce = (s.heap k).pending.get? nonce) ∨
    ¬s'.IsOpen k ∧ ∀ nonce, (s'.heap k).pending.get? nonce = none
  attempts : ∀ i, Goes (s.attempts i) (s'.attempts i)

lemma Goes.trans {a'' : Attempt} (h : Goes a a') (h' : Goes a' a'') : Goes a a'' where
  sess := h'.sess.trans h.sess
  nonce := h'.nonce.trans h.nonce
  capacity := h'.capacity.trans h.capacity
  buffer hb := h'.buffer (h.buffer hb)
  holds := h'.holds.trans h.holds
  waits hw := by
    obtain ⟨hw', hbuf'⟩ := h'.waits hw
    obtain ⟨hw, hbuf⟩ := h.waits hw'
    exact ⟨hw, hbuf'.trans hbuf⟩
  found hf := h.found (h'.found hf)
  ended he := h.ended (h'.ended he)

lemma Calm.refl (s : Server) : Calm s s :=
  ⟨rfl, rfl, fun h => h, fun _ => .inl fun _ => rfl, fun _ => .refl _⟩

lemma Calm.trans {s s'' : Server} (h : Calm s s') (h' : Calm s' s'') : Calm s s'' where
  next := h'.next.trans h.next
  nextAttempt := h'.nextAttempt.trans h.nextAttempt
  opens hk := h.opens (h'.opens hk)
  sessions k := by
    rcases h'.sessions k with hsame' | hcl'
    · rcases h.sessions k with hsame | ⟨hcl, hnone⟩
      · exact .inl fun nonce => (hsame' nonce).trans (hsame nonce)
      · right
        exact ⟨fun hk => hcl (h'.opens hk), fun nonce => (hsame' nonce).trans (hnone nonce)⟩
    · exact .inr hcl'
  attempts i := (h.attempts i).trans (h'.attempts i)

lemma Calm.quiet (h : Calm s s') : Quiet s s' where
  next := h.next.ge
  nextAttempt := h.nextAttempt.ge
  sessions k := (h.sessions k).imp_left fun hsame => ⟨hsame, fun hk => .inl (h.opens hk)⟩
  attempts i := .inl (h.attempts i)

variable {s : Server}

lemma calm_setSession
    (hcl : sess.closed = (s.heap k).closed) (hpend : sess.pending = (s.heap k).pending) :
    Calm s (s.setSession k sess) where
  next := rfl
  nextAttempt := rfl
  opens {k'} hk' := by
    rw [IsOpen, heap_setSession (·.closed) hcl k'] at hk'
    exact hk'
  sessions k' := .inl fun nonce => by rw [heap_setSession (·.pending) hpend k']
  attempts _ := .refl _

lemma calm_setAttempt (h : Goes (s.attempts i) attempt) : Calm s (s.setAttempt i attempt) where
  next := rfl
  nextAttempt := rfl
  opens hk := hk
  sessions _ := .inl fun _ => rfl
  attempts i' := by
    rcases eq_or_ne i' i with rfl | hne
    · rw [setAttempt_attempts_self]
      exact h
    · rw [setAttempt_attempts_of_ne hne]
      exact .refl _

lemma calm_handleHeartbeat (s : Server) (k : ℕ) (addresses : Option (List String)) (now : ℕ) :
    Calm s (s.handleHeartbeat k addresses now) := calm_setSession rfl rfl

lemma calm_receiveEvent (s : Server) (k : ℕ) : Calm s (s.receiveEvent k) := calm_setSession rfl rfl

lemma calm_sendEvent {event : RealmEvent} {sent : Bool}
    (h : s.sendEvent k event = some (s', sent)) : Calm s s' := by
  unfold sendEvent at h
  dsimp only at h
  split at h
  · obtain ⟨rfl, -⟩ := Prod.mk.injEq .. ▸ Option.some.inj h
    exact .refl s
  · obtain ⟨⟨events, sent'⟩, -, heq⟩ := bind_eq_some_iff.1 h
    obtain ⟨rfl, -⟩ := Prod.mk.injEq .. ▸ Option.some.inj heq
    exact calm_setSession rfl rfl

lemma calm_sendPunch (hi : (s.attempts i).stage = .registered)
    (h : s.sendPunch i = some s') : Calm s s' := by
  obtain ⟨⟨s₁, sent⟩, hsend, heq⟩ := bind_eq_some_iff.1 h
  obtain rfl := Option.some.inj heq
  refine (calm_sendEvent hsend).trans (calm_setAttempt ?_)
  rw [sendEvent_attempts hsend]
  cases sent with
  | true =>
    exact ⟨rfl, rfl, rfl, fun h => h, by rw [hi]; rfl, fun _ => ⟨by rw [hi]; rfl, rfl⟩, nofun,
      fun _ => by rw [hi]; exact nofun⟩
  | false =>
    exact ⟨rfl, rfl, rfl, fun h => h, by rw [hi]; rfl, nofun, nofun,
      fun _ => by rw [hi]; exact nofun⟩

lemma goes_ending (ha : a.stage = .waiting) (ha' : a'.stage = .ending)
    (hsess : a'.sess = a.sess) (hnonce : a'.nonce = a.nonce)
    (hcap : a'.respCh.capacity = a.respCh.capacity)
    (hbuf : a.respCh.buffer = [] → a'.respCh.buffer = []) : Goes a a' where
  sess := hsess
  nonce := hnonce
  capacity := hcap
  buffer := hbuf
  holds := by rw [ha, ha']; rfl
  waits h := by rw [ha'] at h; nomatch h
  found h := by rw [ha'] at h; nomatch h
  ended _ := by rw [ha]; exact nofun

lemma calm_wake (hi : (s.attempts i).stage = .waiting) (reason : Wake) :
    Calm s (s.wake i reason) := by
  unfold wake
  dsimp only
  split
  · split
    · next hbuf =>
      refine calm_setAttempt (goes_ending hi rfl rfl rfl rfl fun hnil => ?_)
      rw [hbuf] at hnil
      nomatch hnil
    · split
      · exact calm_setAttempt (goes_ending hi rfl rfl rfl rfl fun h => h)
      · exact .refl s
  · exact calm_setAttempt (goes_ending hi rfl rfl rfl rfl fun h => h)
  · split
    · exact calm_setAttempt (goes_ending hi rfl rfl rfl rfl fun h => h)
    · exact .refl s
  · exact calm_setAttempt (goes_ending hi rfl rfl rfl rfl fun h => h)

lemma goes_hangUp (a : Attempt) : Goes a (hangUp a) :=
  ⟨rfl, rfl, rfl, fun h => h, rfl, fun h => ⟨h, rfl⟩, fun h => h, fun h => h⟩

lemma calm_removed (s : Server) (k : ℕ) : Calm s (s.removed k) where
  next := rfl
  nextAttempt := rfl
  opens {k'} hk' := (isOpen_removed.1 hk').2
  sessions k' := by
    rcases eq_or_ne k' k with rfl | hne
    · refine .inr ⟨fun hk => (isOpen_removed.1 hk).1 rfl, fun nonce => ?_⟩
      rw [removed_heap_self]
      rfl
    · rw [removed_heap_of_ne hne]
      exact .inl fun _ => rfl
  attempts i := by
    simp only [removed]
    split
    · exact goes_hangUp _
    · exact .refl _

lemma calm_removeSessionLocked (h : Consistent s)
    (hs' : s.removeSessionLocked k = some s') : Calm s s' := by
  by_cases hk : s.IsOpen k
  · rw [removeSessionLocked_eq h hk] at hs'
    rw [← Option.some.inj hs']
    exact calm_removed s k
  · have hcl : (s.heap k).closed := by simpa [IsOpen] using hk
    rw [removeSessionLocked, if_pos hcl] at hs'
    rw [← Option.some.inj hs']
    exact .refl s

lemma calm_closeAll (h : Consistent s) {order : List ℕ}
    (hs' : s.closeAll order = some s') : Calm s s' := by
  induction order generalizing s with
  | nil =>
    rw [← Option.some.inj hs']
    exact .refl s
  | cons k order ih =>
    obtain ⟨s₁, hrm, h₁, -⟩ := consistent_removeSessionLocked h k
    rw [closeAll, List.foldlM_cons, hrm] at hs'
    exact (calm_removeSessionLocked h hrm).trans (ih h₁ hs')

lemma quiet_addSession (h : Consistent s)
    (hopen : sess.closed = false) (hpend : ∀ nonce, sess.pending.get? nonce = none) :
    Quiet s (s.addSession sess) where
  next := Nat.le_succ _
  nextAttempt := le_rfl
  sessions k := by
    left
    rcases eq_or_ne k s.next with rfl | hne
    · refine ⟨fun nonce => ?_, fun _ => .inr le_rfl⟩
      rw [addSession_heap_self, hpend, eq_comm, eq_none_iff_forall_ne_some]
      exact fun i hget => lt_irrefl _ (h.lt_next (h.pending hget).1)
    · refine ⟨fun nonce => by rw [addSession_heap_of_ne hne], fun hk => .inl ?_⟩
      exact ((isOpen_addSession hopen k).1 hk).resolve_left hne
  attempts _ := .inl (.refl _)

lemma quiet_handleRegister (h : Consistent s) (user : RealmUser) (realm : String)
    (addresses : List String) (now : ℕ) (id : Option String) :
    Quiet s (s.handleRegister user realm addresses now id) := by
  unfold handleRegister
  split
  · exact (Calm.refl s).quiet
  · split
    · exact (Calm.refl s).quiet
    · cases id with
      | none => exact (Calm.refl s).quiet
      | some id => exact quiet_addSession h rfl fun _ => rfl

lemma quiet_handleConnect (h : Consistent s) (realm nonce obfs : String)
    (addresses : List String) (now : ℕ) :
    Quiet s (s.handleConnect realm nonce obfs addresses now) where
  next := le_rfl
  nextAttempt := Nat.le_succ _
  sessions _ := .inl ⟨fun _ => rfl, fun hk => .inl hk⟩
  attempts i := by
    rcases eq_or_ne i s.nextAttempt with rfl | hne
    · refine .inr ⟨fun k nonce hget => lt_irrefl _ (h.pending hget).2.1, ?_⟩
      simp only [handleConnect, setAttempt, Function.update_self]
      split
      · exact ⟨rfl, fun h => noConfusion h⟩
      · next k hk =>
        split
        · exact ⟨rfl, fun h => noConfusion h⟩
        · refine ⟨rfl, fun _ => ⟨⟨Nat.lt_succ_self _, ?_⟩, rfl, rfl⟩⟩
          exact h.lt_next ((h.realms _ k).1 hk).1
    · simp only [handleConnect, setAttempt, Function.update_of_ne hne]
      exact .inl (.refl _)

/-- No attempt with the nonce has still to run `cancelPending`. -/
def Careful (s : Server) : Action → Prop
  | .registerPending i => s.accepts (s.attempts i).sess (s.attempts i).nonce →
      ∀ j < s.nextAttempt, (s.attempts j).sess = (s.attempts i).sess →
        (s.attempts j).nonce = (s.attempts i).nonce → (s.attempts j).stage.holds = false
  | _ => True

instance decidableCareful (s : Server) : ∀ action, Decidable (s.Careful action)
  | .registerPending i => inferInstanceAs (Decidable (
      s.accepts (s.attempts i).sess (s.attempts i).nonce →
        ∀ j < s.nextAttempt, (s.attempts j).sess = (s.attempts i).sess →
          (s.attempts j).nonce = (s.attempts i).nonce → (s.attempts j).stage.holds = false))
  | .register _ _ _ _ _ | .deregister _ | .heartbeat _ _ _ | .acknowledge _ | .expire _ _
  | .closeAll _ | .receiveEvent _ | .connect _ _ _ _ _ | .sendPunch _ | .wake _ _
  | .cancelPending _ | .respond _ _ _ => inferInstanceAs (Decidable True)

/-! ### Registering an attempt -/

def put (s : Server) (i : ℕ) : Server := (s.setSession (s.attempts i).sess
    { s.heap (s.attempts i).sess with
      pending := (s.heap (s.attempts i).sess).pending.put (s.attempts i).nonce i }).setAttempt i
    { s.attempts i with stage := .registered }

lemma put_get? (s : Server) (i k : ℕ) (nonce : String) : ((s.put i).heap k).pending.get? nonce =
    if k = (s.attempts i).sess ∧ nonce = (s.attempts i).nonce then some i
    else (s.heap k).pending.get? nonce := by
  rw [put, setAttempt_heap]
  rcases eq_or_ne k (s.attempts i).sess with rfl | hne
  · rw [setSession_heap_self, OrderedMap.get?_put]
    simp
  · rw [setSession_heap_of_ne hne, if_neg fun hk => hne hk.1]

lemma put_attempts_self : (s.put i).attempts i = { s.attempts i with stage := .registered } :=
  setAttempt_attempts_self _ i _

lemma put_attempts_of_ne {i i' : ℕ} (h : i' ≠ i) :
    (s.put i).attempts i' = s.attempts i' := setAttempt_attempts_of_ne h _

lemma isOpen_put (i k : ℕ) : (s.put i).IsOpen k ↔ s.IsOpen k := by
  rcases eq_or_ne k (s.attempts i).sess with rfl | hne
  · rw [IsOpen, IsOpen, put, setAttempt_heap, setSession_heap_self]
  · rw [IsOpen, IsOpen, put, setAttempt_heap, setSession_heap_of_ne hne]

lemma put_attempts {α : Type} (f : Attempt → α) (s : Server) (i : ℕ)
    (hf : f { s.attempts i with stage := .registered } = f (s.attempts i)) (j : ℕ) :
    f ((s.put i).attempts j) = f (s.attempts j) := by
  rcases eq_or_ne j i with rfl | hne
  · rw [put_attempts_self, hf]
  · rw [put_attempts_of_ne hne]

lemma exclusive_put (h : Exclusive s) (hi : (s.attempts i).stage = .found)
    (hfree : ∀ {j}, (s.attempts j).stage.holds →
      (s.attempts j).sess = (s.attempts i).sess → (s.attempts j).nonce ≠ (s.attempts i).nonce) :
    Exclusive (s.put i) := by
  have hsess : ∀ j, ((s.put i).attempts j).sess = (s.attempts j).sess :=
    put_attempts (·.sess) s i rfl
  have hnonce : ∀ j, ((s.put i).attempts j).nonce = (s.attempts j).nonce :=
    put_attempts (·.nonce) s i rfl
  have hch : ∀ j, ((s.put i).attempts j).respCh = (s.attempts j).respCh :=
    put_attempts (·.respCh) s i rfl
  -- An attempt holds its nonce after the step if it did before, or if it is the new one.
  have hholds : ∀ {j}, ((s.put i).attempts j).stage.holds → j = i ∨ (s.attempts j).stage.holds := by
    intro j hj
    rcases eq_or_ne j i with rfl | hne
    · exact .inl rfl
    · rw [put_attempts_of_ne hne] at hj
      exact .inr hj
  constructor
  case owner =>
    intro k nonce j hget
    rw [put_get?] at hget
    rw [hch]
    split_ifs at hget with hkey
    · obtain rfl := Option.some.inj hget
      rw [put_attempts_self]
      exact ⟨rfl, h.fresh hi⟩
    · obtain ⟨hj, hchannel⟩ := h.owner hget
      have hne : j ≠ i := by
        rintro rfl
        rw [hi] at hj
        exact Bool.false_ne_true hj
      rw [put_attempts_of_ne hne]
      exact ⟨hj, hchannel⟩
  case unique =>
    intro j j' hj hj' hs hn
    rw [hsess, hsess] at hs
    rw [hnonce, hnonce] at hn
    rcases hholds hj with rfl | hold <;> rcases hholds hj' with rfl | hold'
    · rfl
    · exact absurd hn.symm (hfree hold' hs.symm)
    · exact absurd hn (hfree hold hs)
    · exact h.unique hold hold' hs hn
  case entry =>
    intro j hj hopen hbuf
    rw [hsess] at hopen ⊢
    rw [hnonce, put_get?]
    rw [isOpen_put] at hopen
    rw [hch] at hbuf
    rcases eq_or_ne j i with rfl | hne
    · rw [if_pos ⟨rfl, rfl⟩]
    · rw [put_attempts_of_ne hne] at hj
      rw [if_neg fun hkey => hfree (holds_of_waits hj) hkey.1 hkey.2]
      exact h.entry hj hopen hbuf
  case fresh =>
    intro j hj
    rw [hch]
    rcases eq_or_ne j i with rfl | hne
    · exact h.fresh hi
    · rw [put_attempts_of_ne hne] at hj
      exact h.fresh hj
  case lt_next =>
    intro j hj
    rw [hsess]
    rcases eq_or_ne j i with rfl | hne
    · exact h.lt_next (by rw [hi]; exact fun h => noConfusion h)
    · rw [put_attempts_of_ne hne] at hj
      exact h.lt_next hj

lemma exclusive_registerPending (h : Exclusive s)
    (hi : (s.attempts i).stage = .found) (hcare : s.Careful (.registerPending i)) :
    Exclusive (s.registerPending i) := by
  unfold registerPending
  dsimp only
  split
  case isTrue haccepts =>
    refine exclusive_put h hi fun {j} hj hsess hnonce => ?_
    have hlt : j < s.nextAttempt := by
      refine (h.lt_next fun hended => ?_).1
      rw [hended] at hj
      nomatch hj
    rw [hcare haccepts j hlt hsess hnonce] at hj
    nomatch hj
  case isFalse =>
    refine h.of_quiet (calm_setAttempt ?_).quiet
    exact ⟨rfl, rfl, rfl, fun h => h, by rw [hi]; rfl, nofun, nofun, fun h => absurd rfl h⟩

/-! ### Removing an attempt -/

def drop (s : Server) (k : ℕ) (nonce : String) (i : ℕ) (attempt : Attempt) : Server :=
  (s.setSession k { s.heap k with pending := (s.heap k).pending.erase nonce }).setAttempt i attempt

lemma drop_get? (s : Server) (k : ℕ) (nonce : String) (i : ℕ) (attempt : Attempt) (k' : ℕ)
    (nonce' : String) :
    ((s.drop k nonce i attempt).heap k').pending.get? nonce' =
    if k' = k ∧ nonce' = nonce then none else (s.heap k').pending.get? nonce' := by
  rw [drop, setAttempt_heap]
  rcases eq_or_ne k' k with rfl | hne
  · rw [setSession_heap_self, OrderedMap.get?_erase]
    simp
  · rw [setSession_heap_of_ne hne, if_neg fun hk => hne hk.1]

lemma isOpen_drop (k' : ℕ) : (s.drop k nonce i attempt).IsOpen k' ↔ s.IsOpen k' := by
  rcases eq_or_ne k' k with rfl | hne
  · rw [IsOpen, IsOpen, drop, setAttempt_heap, setSession_heap_self]
  · rw [IsOpen, IsOpen, drop, setAttempt_heap, setSession_heap_of_ne hne]

lemma exclusive_drop (hc : Consistent s) (h : Exclusive s) (hi : (s.attempts i).stage.holds)
    (hsess : attempt.sess = (s.attempts i).sess) (hnonce : attempt.nonce = (s.attempts i).nonce)
    (hfound : attempt.stage ≠ .found)
    (hdone : attempt.stage.waits → attempt.respCh.buffer ≠ []) :
    Exclusive (s.drop (s.attempts i).sess (s.attempts i).nonce i attempt) := by
  set s' := s.drop (s.attempts i).sess (s.attempts i).nonce i attempt with hs'
  have hself : s'.attempts i = attempt := setAttempt_attempts_self _ i _
  have hoth : ∀ {j}, j ≠ i → s'.attempts j = s.attempts j := fun hne =>
    setAttempt_attempts_of_ne hne _
  have hsame : ∀ j, (s'.attempts j).sess = (s.attempts j).sess ∧
      (s'.attempts j).nonce = (s.attempts j).nonce ∧
      ((s'.attempts j).stage.holds → (s.attempts j).stage.holds) := by
    intro j
    rcases eq_or_ne j i with rfl | hne
    · rw [hself]
      exact ⟨hsess, hnonce, fun _ => hi⟩
    · rw [hoth hne]
      exact ⟨rfl, rfl, fun hj => hj⟩
  constructor
  case owner =>
    intro k nonce j hget
    rw [hs', drop_get?] at hget
    split_ifs at hget with hkey
    obtain ⟨-, -, hk, hn, -⟩ := hc.pending hget
    have hne : j ≠ i := by
      rintro rfl
      exact hkey ⟨hk.symm, hn.symm⟩
    rw [hoth hne]
    exact h.owner hget
  case unique =>
    intro j j' hj hj' hs hn
    obtain ⟨hsj, hnj, hholds⟩ := hsame j
    obtain ⟨hsj', hnj', hholds'⟩ := hsame j'
    rw [hsj, hsj'] at hs
    rw [hnj, hnj'] at hn
    exact h.unique (hholds hj) (hholds' hj') hs hn
  case entry =>
    intro j hj hopen hbuf
    rcases eq_or_ne j i with rfl | hne
    · rw [hself] at hj hbuf
      exact absurd hbuf (hdone hj)
    · rw [hoth hne] at hj hopen hbuf ⊢
      rw [hs', isOpen_drop] at hopen
      rw [hs', drop_get?, if_neg]
      · exact h.entry hj hopen hbuf
      · exact fun hkey => hne (h.unique (holds_of_waits hj) hi hkey.1 hkey.2)
  case fresh =>
    intro j hj
    rcases eq_or_ne j i with rfl | hne
    · rw [hself] at hj
      exact absurd hj hfound
    · rw [hoth hne] at hj ⊢
      exact h.fresh hj
  case lt_next =>
    intro j hj
    rw [(hsame j).1]
    rcases eq_or_ne j i with rfl | hne
    · refine h.lt_next fun hended => ?_
      rw [hended] at hi
      exact Bool.false_ne_true hi
    · rw [hoth hne] at hj
      exact h.lt_next hj

lemma exclusive_cancelPending (hc : Consistent s) (h : Exclusive s)
    (hi : (s.attempts i).stage = .ending) : Exclusive (s.cancelPending i) :=
  exclusive_drop hc h (by rw [hi]; rfl) rfl rfl nofun nofun

lemma deliverPending_eq (hc : Consistent s) (h : Exclusive s)
    (hget : (s.heap k).pending.get? nonce = some i) (addresses : List String) :
    s.deliverPending k nonce addresses = some (s.drop k nonce i
      { s.attempts i with respCh := { (s.attempts i).respCh with buffer := [addresses] } }) := by
  obtain ⟨hk, -, -, -, hcl⟩ := hc.pending hget
  obtain ⟨-, hbuf, hcap⟩ := h.owner hget
  have hsend : (s.attempts i).respCh.trySend addresses =
      some ({ (s.attempts i).respCh with buffer := [addresses] }, true) := by
    have hroom : (s.attempts i).respCh.buffer.length < (s.attempts i).respCh.capacity := by
      rw [hbuf, hcap]
      exact Nat.zero_lt_one
    rw [Channel.trySend_of_lt hcl hroom, hbuf]
    rfl
  unfold deliverPending
  rw [if_neg (by rw [hk]; exact Bool.false_ne_true), hget]
  dsimp only
  rw [hsend]
  rfl

lemma deliverPending_none (hget : (s.heap k).pending.get? nonce = none) (addresses : List String) :
    s.deliverPending k nonce addresses = some s := by
  unfold deliverPending
  dsimp only
  rw [hget]
  exact ite_self (some s)

/-- The entry is there, or has disappeared for a reason. -/
def Disappears (s : Server) (action : Action) (s' : Server) : Prop :=
  ∀ k nonce i, (s.heap k).pending.get? nonce = some i → (s'.heap k).pending.get? nonce = some i ∨
      (∃ addresses, action = .respond k nonce addresses ∧
        (s'.attempts i).respCh.buffer = [addresses]) ∨
      action = .cancelPending i ∨ ¬s'.IsOpen k

lemma Quiet.disappears (h : Quiet s s') (action : Action) : Disappears s action s' := by
  intro k nonce i hget
  rcases h.sessions k with ⟨hsame, -⟩ | ⟨hcl, -⟩
  · exact .inl ((hsame nonce).trans hget)
  · exact .inr (.inr (.inr hcl))

lemma disappears_registerPending (s : Server) (i : ℕ) :
    Disappears s (.registerPending i) (s.registerPending i) := by
  intro k nonce j hget
  left
  unfold registerPending
  dsimp only
  split
  · next haccepts =>
    refine (put_get? s i k nonce).trans ?_
    rw [if_neg, hget]
    rintro ⟨rfl, rfl⟩
    rw [accepts, hget] at haccepts
    simp at haccepts
  · exact hget

lemma disappears_cancelPending (hc : Consistent s) (h : Exclusive s)
    (hi : (s.attempts i).stage = .ending) :
    Disappears s (.cancelPending i) (s.cancelPending i) := by
  intro k nonce j hget
  by_cases hkey : k = (s.attempts i).sess ∧ nonce = (s.attempts i).nonce
  · obtain ⟨-, -, hsess, hnonce, -⟩ := hc.pending hget
    have hji : j = i := h.unique (h.owner hget).1 (by rw [hi]; rfl) (hsess.trans hkey.1)
      (hnonce.trans hkey.2)
    exact .inr (.inr (.inl (by rw [hji])))
  · left
    refine (drop_get? s (s.attempts i).sess (s.attempts i).nonce i _ k nonce).trans ?_
    rw [if_neg hkey, hget]

lemma deliverPending_spec (hc : Consistent s) (h : Exclusive s)
    {addresses : List String} (hs' : s.deliverPending k nonce addresses = some s') :
    Exclusive s' ∧ Disappears s (.respond k nonce addresses) s' := by
  cases hget : (s.heap k).pending.get? nonce with
  | none =>
    rw [deliverPending_none hget] at hs'
    rw [← Option.some.inj hs']
    exact ⟨h, (Calm.refl s).quiet.disappears _⟩
  | some i =>
    rw [deliverPending_eq hc h hget] at hs'
    rw [← Option.some.inj hs']
    obtain ⟨-, -, rfl, rfl, -⟩ := hc.pending hget
    have hholds := (h.owner hget).1
    constructor
    · refine exclusive_drop hc h hholds rfl rfl (fun hfound => ?_) fun _ => List.cons_ne_nil _ _
      rw [show (s.attempts i).stage = .found from hfound] at hholds
      nomatch hholds
    · intro k' nonce' j hj
      by_cases hkey : k' = (s.attempts i).sess ∧ nonce' = (s.attempts i).nonce
      · obtain ⟨rfl, rfl⟩ := hkey
        obtain rfl : i = j := Option.some.inj (hget.symm.trans hj)
        refine .inr (.inl ⟨addresses, rfl, ?_⟩)
        rw [drop, setAttempt_attempts_self]
      · left
        rw [drop_get?, if_neg hkey, hj]

lemma exec_exclusive {users : List RealmUser} (hc : Consistent s)
    (h : Exclusive s) {action : Action} (hp : s.Possible users action)
    (hs' : s.exec action = some s') :
    (s.Careful action → Exclusive s') ∧ Disappears s action s' := by
  have hquiet : Quiet s s' → (s.Careful action → Exclusive s') ∧ Disappears s action s' :=
    fun hs => ⟨fun _ => h.of_quiet hs, hs.disappears action⟩
  cases action with
  | register user realm addresses now id =>
    obtain rfl := Option.some.inj hs'
    exact hquiet (quiet_handleRegister hc user realm addresses now id)
  | deregister k => exact hquiet (calm_removeSessionLocked hc hs').quiet
  | heartbeat k addresses now =>
    obtain rfl := Option.some.inj hs'
    exact hquiet (calm_handleHeartbeat s k addresses now).quiet
  | acknowledge k =>
    obtain ⟨⟨s₁, sent⟩, hsend, rfl⟩ := map_eq_some_iff.1 hs'
    exact hquiet (calm_sendEvent hsend).quiet
  | expire k now =>
    rw [exec, removeExpiredSession] at hs'
    split_ifs at hs'
    · obtain rfl := Option.some.inj hs'
      exact hquiet (Calm.refl s).quiet
    · exact hquiet (calm_removeSessionLocked hc hs').quiet
  | closeAll order => exact hquiet (calm_closeAll hc hs').quiet
  | receiveEvent k =>
    obtain rfl := Option.some.inj hs'
    exact hquiet (calm_receiveEvent s k).quiet
  | connect realm nonce obfs addresses now =>
    obtain rfl := Option.some.inj hs'
    exact hquiet (quiet_handleConnect hc realm nonce obfs addresses now)
  | registerPending i =>
    obtain rfl := Option.some.inj hs'
    exact ⟨exclusive_registerPending h hp, disappears_registerPending s i⟩
  | sendPunch i => exact hquiet (calm_sendPunch hp hs').quiet
  | wake i reason =>
    obtain rfl := Option.some.inj hs'
    exact hquiet (calm_wake hp reason).quiet
  | cancelPending i =>
    obtain rfl := Option.some.inj hs'
    exact ⟨fun _ => exclusive_cancelPending hc h hp, disappears_cancelPending hc h hp⟩
  | respond k nonce addresses =>
    obtain ⟨hexclusive, hdisappears⟩ := deliverPending_spec hc h hs'
    exact ⟨fun _ => hexclusive, hdisappears⟩

end Server

/-- Entries disappear only for a reason, and responses arrive. -/
structure Answering (users : List RealmUser) (s : Server) : Prop where
  disappears : ∀ action, s.Possible users action → Disappears s action (s.step action)
  reached : ∀ i, (s.attempts i).stage.waits → s.IsOpen (s.attempts i).sess →
    (s.attempts i).respCh.buffer = [] → ∀ addresses,
      ((s.step (.respond (s.attempts i).sess (s.attempts i).nonce addresses)).attempts
        i).respCh.buffer = [addresses]

def answeredActions : List Action :=
  [.register ⟨"alice", 0⟩ "home" ["192.0.2.1:443"] 0 (some "a"),
    .connect "home" hexNonce hexObfs ["198.51.100.1:443"] 1, .registerPending 0, .sendPunch 0,
    .respond 0 hexNonce ["192.0.2.2:443"]]

def secondAttempt : List Action :=
  [.connect "home" hexNonce hexObfs ["198.51.100.2:443"] 2, .registerPending 1, .sendPunch 1]

/-- If a nonce is registered only after `cancelPending` of its attempts, an entry disappears only
with its response, attempt or session. -/
theorem answering_of_careful (users : List RealmUser) {s : Server}
    (h : Run .step (fun s action => s.Possible users action ∧ s.Careful action) {} s) :
    Answering users s := by
  have hinv : Consistent s ∧ Exclusive s := by
    refine h.invariant (I := fun s => Consistent s ∧ Exclusive s)
      ⟨consistent_empty, exclusive_empty⟩ ?_
    rintro s action ⟨hc, hs⟩ ⟨hp, hcare⟩
    obtain ⟨s', hs', hc', -⟩ := exec_consistent hc hp
    rw [Server.step, hs', getD_some]
    exact ⟨hc', (exec_exclusive hc hs hp hs').1 hcare⟩
  obtain ⟨hc, hs⟩ := hinv
  constructor
  case disappears =>
    intro action hp
    obtain ⟨s', hs', -, -⟩ := exec_consistent hc hp
    rw [Server.step, hs', getD_some]
    exact (exec_exclusive hc hs hp hs').2
  case reached =>
    intro i hwaits hopen hbuf addresses
    have hget := hs.entry hwaits hopen hbuf
    rw [Server.step, exec, deliverPending_eq hc hs hget, getD_some, drop, setAttempt_attempts_self]

theorem answering_of_careful_reused : ∃ s : Server,
      s = (answeredActions ++ [Action.wake 0 .response, .cancelPending 0] ++
        secondAttempt).foldl .step {} ∧
      Answering [⟨"alice", 0⟩] s ∧ (s.attempts 1).stage = .waiting :=
  ⟨_, rfl, answering_of_careful _ (.foldl .start (by decide +kernel)), by decide +kernel⟩

/-- The `cancelPending` of the first attempt removes the second entry. -/
theorem not_answering_reused : ∃ s : Server,
      s = (answeredActions ++ secondAttempt ++ [Action.wake 0 .response]).foldl .step {} ∧
      Run .step (fun s action => s.Possible [⟨"alice", 0⟩] action) {} s ∧
      s.Possible [⟨"alice", 0⟩] (.cancelPending 0) ∧
      (s.heap 0).pending.get? hexNonce = some 1 ∧
      ((s.step (.cancelPending 0)).heap 0).pending.get? hexNonce = none ∧
      ((s.step (.cancelPending 0)).attempts 1).stage = .waiting ∧
      (s.step (.cancelPending 0)).IsOpen 0 ∧
      (((s.step (.cancelPending 0)).step (.respond 0 hexNonce ["192.0.2.3:443"])).attempts
        1).respCh.buffer = [] :=
  ⟨_, rfl, .foldl .start (by decide +kernel), by decide +kernel, by decide +kernel,
    by decide +kernel, by decide +kernel, by decide +kernel, by decide +kernel⟩

end SingBox.Realm
