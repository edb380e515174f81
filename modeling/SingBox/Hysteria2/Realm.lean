import SingBox.Lib.Channel
import SingBox.Lib.OrderedMap
import SingBox.Lib.Run
import Mathlib.Data.Finset.Card

/-!
# The realm server of Hysteria2

Clients connect to the realm of a session with a nonce and wait until its owner responds. A request
keeps its session after it was closed, and timers may be late. A panic is the missing result.
-/

namespace SingBox.Realm
open Function

def sessionTTL : ℕ := 60
def eventChannelSize : ℕ := 16
def maxPendingAttempts : ℕ := 16

structure RealmUser where
  name : String
  maxRealms : ℤ := 0
deriving DecidableEq

inductive RealmEvent where
  | heartbeatAck (ttl : ℕ)
  | punch (addresses : List String) (nonce obfs : String)

structure RealmSession where
  id : String := ""
  realmID : String := ""
  username : String := ""
  addresses : List String := []
  expires : ℕ := 0
  events : Channel RealmEvent := { capacity := eventChannelSize }
  done : Channel Unit := {}
  closed : Bool := false
  /-- The attempts that wait, by nonce; the channel is `respCh`. -/
  pending : OrderedMap String ℕ := {}

inductive Stage where
  | found
  | registered
  | waiting
  /-- It is about to run its deferred `cancelPending`. -/
  | ending
  | ended
deriving DecidableEq

inductive Reply where
  | realmNotFound
  | rateLimited (message : String)
  | connected (addresses : List String) (nonce obfs : String)
deriving DecidableEq

structure Attempt where
  sess : ℕ := 0
  nonce : String := ""
  obfs : String := ""
  addresses : List String := []
  serverAddresses : List String := []
  respCh : Channel (List String) := { capacity := 1 }
  stage : Stage := .ended
  reply : Option Reply := none

/-- All sessions and attempts. An unknown session is closed. -/
structure Server where
  realms : OrderedMap String ℕ := {}
  sessions : OrderedMap String ℕ := {}
  userCounts : OrderedMap String ℤ := {}
  heap : ℕ → RealmSession := fun _ => { closed := true }
  next : ℕ := 0
  attempts : ℕ → Attempt := fun _ => {}
  nextAttempt : ℕ := 0

namespace Server
variable (s : Server)

def userCount (name : String) : ℤ := (s.userCounts.get? name).getD 0

variable (k : ℕ) (sess : RealmSession)

def setSession : Server := { s with heap := update s.heap k sess }

variable (i : ℕ) (attempt : Attempt)

def setAttempt : Server := { s with attempts := update s.attempts i attempt }

@[simp] lemma setSession_heap_self : (s.setSession k sess).heap k = sess := by simp [setSession]

@[simp] lemma setAttempt_heap : (s.setAttempt i attempt).heap = s.heap := rfl

@[simp] lemma setAttempt_attempts_self :
    (s.setAttempt i attempt).attempts i = attempt := by simp [setAttempt]

variable {s} in
@[simp] lemma setSession_heap_of_ne {k k' : ℕ} (h : k' ≠ k) (sess : RealmSession) :
    (s.setSession k sess).heap k' = s.heap k' := by simp [setSession, h]

variable {s} in
@[simp] lemma setAttempt_attempts_of_ne {i i' : ℕ} (h : i' ≠ i) (attempt : Attempt) :
    (s.setAttempt i attempt).attempts i' = s.attempts i' := by simp [setAttempt, h]

def closePending (attempts : ℕ → Attempt) (pending : List (String × ℕ)) : Option (ℕ → Attempt) :=
  pending.foldlM (fun attempts entry => do
    let respCh ← (attempts entry.2).respCh.close
    return update attempts entry.2 { attempts entry.2 with respCh }) attempts

def lessOne (userCounts : OrderedMap String ℤ) (name : String) : OrderedMap String ℤ :=
  let count := (userCounts.get? name).getD 0 - 1
  if count ≤ 0 then userCounts.erase name else userCounts.put name count

def removeSessionLocked : Option Server :=
  let sess := s.heap k
  if sess.closed then some s
  else do
    let done ← sess.done.close
    let events ← sess.events.close
    let attempts ← closePending s.attempts sess.pending.entries
    return { s with
      realms :=
        if s.realms.get? sess.realmID = some k then s.realms.erase sess.realmID else s.realms
      userCounts := if (s.sessions.get? sess.id).isSome then lessOne s.userCounts sess.username
        else s.userCounts
      sessions := s.sessions.erase sess.id
      attempts
      heap := update s.heap k { sess with closed := true, done, events, pending := {} } }

def removeExpiredSession (now : ℕ) : Option Server :=
  if (s.heap k).closed || !decide ((s.heap k).expires < now) then some s
  else s.removeSessionLocked k

/-- The range over the sessions may have any order. -/
def closeAll (order : List ℕ) : Option Server := order.foldlM removeSessionLocked s

def addSession : Server := { s with
    heap := update s.heap s.next sess
    realms := s.realms.put sess.realmID s.next
    sessions := s.sessions.put sess.id s.next
    userCounts := s.userCounts.put sess.username (s.userCount sess.username + 1)
    next := s.next + 1 }

/-- Without an identifier the source of random numbers has failed. -/
def handleRegister (user : RealmUser) (realm : String) (addresses : List String) (now : ℕ)
    (id : Option String) : Server :=
  if (s.realms.get? realm).isSome then s
  else if 0 < user.maxRealms ∧ user.maxRealms ≤ s.userCount user.name then s
  else
    match id with
    | none => s
    | some id => s.addSession
        { id, realmID := realm, username := user.name, addresses, expires := now + sessionTTL }

def handleHeartbeat (addresses : Option (List String)) (now : ℕ) : Server :=
  let sess := s.heap k
  s.setSession k { sess with
    expires := now + sessionTTL, addresses := addresses.getD sess.addresses }

def sendEvent (event : RealmEvent) : Option (Server × Bool) :=
  let sess := s.heap k
  if sess.closed then some (s, false)
  else do
    let (events, sent) ← sess.events.trySend event
    return (s.setSession k { sess with events }, sent)

def receiveEvent : Server :=
  let sess := s.heap k
  s.setSession k { sess with events := { sess.events with buffer := sess.events.buffer.tail } }

/-- The locked part: a new attempt, if the realm has a session. -/
def handleConnect (realm nonce obfs : String) (addresses : List String) (now : ℕ) : Server :=
  let attempt : Attempt := match s.realms.get? realm with
    | none => { nonce, obfs, addresses, reply := some .realmNotFound }
    | some k =>
      if (s.heap k).closed || decide ((s.heap k).expires < now) then
        { nonce, obfs, addresses, reply := some .realmNotFound }
      else
        { sess := k, nonce, obfs, addresses, serverAddresses := (s.heap k).addresses
          stage := .found }
  { s.setAttempt s.nextAttempt attempt with nextAttempt := s.nextAttempt + 1 }

variable (nonce : String)

def accepts : Bool :=
  !(s.heap k).closed && decide ((s.heap k).pending.entries.length < maxPendingAttempts) &&
    ((s.heap k).pending.get? nonce).isNone

def registerPending : Server :=
  let attempt := s.attempts i
  let sess := s.heap attempt.sess
  if s.accepts attempt.sess attempt.nonce then
    (s.setSession attempt.sess { sess with pending := sess.pending.put attempt.nonce i }).setAttempt
      i { attempt with stage := .registered }
  else
    s.setAttempt i { attempt with
      stage := .ended
      reply := some (.rateLimited "too many in-flight connect attempts") }

def sendPunch : Option Server := do
  let attempt := s.attempts i
  let (s, sent) ← s.sendEvent attempt.sess (.punch attempt.addresses attempt.nonce attempt.obfs)
  return s.setAttempt i (if sent then { attempt with stage := .waiting }
    else { attempt with
      stage := .ending, reply := some (.rateLimited "server event buffer full") })

inductive Wake where
  | response
  | timeout
  | done
  | contextDone
deriving DecidableEq

def wake (reason : Wake) : Server :=
  let attempt := s.attempts i
  let connected (addresses : List String) : Option Reply :=
    some (.connected addresses attempt.nonce attempt.obfs)
  match reason with
  | .response =>
    match attempt.respCh.buffer with
    | addresses :: buffer =>
      s.setAttempt i { attempt with
        stage := .ending
        respCh := { attempt.respCh with buffer }
        reply := connected (if addresses.isEmpty then attempt.serverAddresses else addresses) }
    | [] =>
      if attempt.respCh.closed then
        s.setAttempt i { attempt with stage := .ending, reply := some .realmNotFound }
      else s
  | .timeout =>
    s.setAttempt i { attempt with stage := .ending, reply := connected attempt.serverAddresses }
  | .done =>
    if (s.heap attempt.sess).done.closed then
      s.setAttempt i { attempt with stage := .ending, reply := some .realmNotFound }
    else s
  | .contextDone => s.setAttempt i { attempt with stage := .ending }

def cancelPending : Server :=
  let attempt := s.attempts i
  let sess := s.heap attempt.sess
  (s.setSession attempt.sess { sess with pending := sess.pending.erase attempt.nonce }).setAttempt i
    { attempt with stage := .ended }

def deliverPending (addresses : List String) : Option Server :=
  let sess := s.heap k
  if sess.closed then some s
  else
    match sess.pending.get? nonce with
    | none => some s
    | some i => do
      let (respCh, _) ← (s.attempts i).respCh.trySend addresses
      return (s.setSession k { sess with pending := sess.pending.erase nonce }).setAttempt i
        { s.attempts i with respCh }

inductive Action where
  | register (user : RealmUser) (realm : String) (addresses : List String) (now : ℕ)
      (id : Option String)
  | deregister (k : ℕ)
  | heartbeat (k : ℕ) (addresses : Option (List String)) (now : ℕ)
  | acknowledge (k : ℕ)
  | expire (k now : ℕ)
  | closeAll (order : List ℕ)
  | receiveEvent (k : ℕ)
  | connect (realm nonce obfs : String) (addresses : List String) (now : ℕ)
  | registerPending (i : ℕ)
  | sendPunch (i : ℕ)
  | wake (i : ℕ) (reason : Wake)
  | cancelPending (i : ℕ)
  | respond (k : ℕ) (nonce : String) (addresses : List String)

def exec : Action → Option Server
  | .register user realm addresses now id => s.handleRegister user realm addresses now id
  | .deregister k => s.removeSessionLocked k
  | .heartbeat k addresses now => s.handleHeartbeat k addresses now
  | .acknowledge k => (s.sendEvent k (.heartbeatAck sessionTTL)).map Prod.fst
  | .expire k now => s.removeExpiredSession k now
  | .closeAll order => s.closeAll order
  | .receiveEvent k => s.receiveEvent k
  | .connect realm nonce obfs addresses now => s.handleConnect realm nonce obfs addresses now
  | .registerPending i => s.registerPending i
  | .sendPunch i => s.sendPunch i
  | .wake i reason => s.wake i reason
  | .cancelPending i => s.cancelPending i
  | .respond k nonce addresses => s.deliverPending k nonce addresses

def step (action : Action) : Server := (s.exec action).getD s

/-- Users are configured, identifiers new, attempts where they are. -/
def Possible (users : List RealmUser) : Action → Prop
  | .register user _ _ _ id => user ∈ users ∧ ∀ k < s.next, some (s.heap k).id ≠ id
  | .closeAll order => order.Perm (s.sessions.entries.map Prod.snd)
  | .registerPending i => (s.attempts i).stage = .found
  | .sendPunch i => (s.attempts i).stage = .registered
  | .wake i _ => (s.attempts i).stage = .waiting
  | .cancelPending i => (s.attempts i).stage = .ending
  | _ => True

instance decidablePossible (users : List RealmUser) : ∀ action, Decidable (s.Possible users action)
  | .register user _ _ _ id =>
    inferInstanceAs (Decidable (user ∈ users ∧ ∀ k < s.next, some (s.heap k).id ≠ id))
  | .closeAll order =>
    inferInstanceAs (Decidable (order.Perm (s.sessions.entries.map Prod.snd)))
  | .registerPending i => inferInstanceAs (Decidable ((s.attempts i).stage = .found))
  | .sendPunch i => inferInstanceAs (Decidable ((s.attempts i).stage = .registered))
  | .wake i _ => inferInstanceAs (Decidable ((s.attempts i).stage = .waiting))
  | .cancelPending i => inferInstanceAs (Decidable ((s.attempts i).stage = .ending))
  | .deregister _ | .heartbeat _ _ _ | .acknowledge _ | .expire _ _ | .receiveEvent _
  | .connect _ _ _ _ _ | .respond _ _ _ => inferInstanceAs (Decidable True)

end Server

end SingBox.Realm
