import Mathlib.Data.List.Basic
import SingBox.Lib.Run
import SingBox.Lib.Table

/-!
# Users of the Shadowsocks management API

The table of users is changed before the server accepts it, and not back. A request takes the lock
twice.
-/

namespace SingBox.SSMAPI

/-- The table, and the users that the server has accepted last. -/
structure UserManager where
  usersMap : Table String String := .empty
  accepted : Table String String := .empty

inductive Call
  | add (username password : String)
  | update (username password : String)
  | delete (username : String)

/-- Given to the server, unless the user exists already. -/
def Call.change (usersMap : Table String String) : Call → Except String (Table String String)
  | .add username password =>
    if (usersMap username).isSome then .error ("user " ++ username ++ " already exists")
    else .ok (usersMap.insert username password)
  | .update username password => .ok (usersMap.insert username password)
  | .delete username => .ok (usersMap.erase username)

def UserManager.postUpdate (m : UserManager) (decision : Option String) :
    UserManager × Option String :=
  match decision with
  | some err => (m, some err)
  | none => ({ m with accepted := m.usersMap }, none)

def UserManager.call (m : UserManager) (call : Call) (decision : Option String) :
    UserManager × Option String :=
  match call.change m.usersMap with
  | .error err => (m, some err)
  | .ok usersMap => { m with usersMap }.postUpdate decision

def UserManager.step (m : UserManager) (a : Call × Option String) : UserManager :=
  (m.call a.1 a.2).1

/-- What the server rejects changes nothing. -/
def UserManager.Unchanged (m : UserManager) (a : Call × Option String) : Prop :=
  a.2.isSome → ∀ usersMap, a.1.change m.usersMap = .ok usersMap → usersMap = m.usersMap

/-- The table is what the server has accepted if nothing was rejected that would have changed it. -/
theorem usersMap_eq_accepted {m : UserManager}
    (h : Run UserManager.step UserManager.Unchanged {} m) : m.usersMap = m.accepted := by
  refine h.invariant (I := fun m => m.usersMap = m.accepted) rfl fun m a hm hunchanged => ?_
  obtain ⟨call, decision⟩ := a
  unfold UserManager.step UserManager.call
  cases hchange : call.change m.usersMap with
  | error err => exact hm
  | ok usersMap =>
    cases decision with
    | none => rfl
    | some err => exact (hunchanged rfl usersMap hchange).trans hm

/-- A user is added twice, the second time without a change. -/
theorem usersMap_eq_accepted_added :
    let m : UserManager := [(.add "a" "x", none), (.add "a" "y", some "e")].foldl .step {}
    m.usersMap "a" = some "x" ∧ m.usersMap = m.accepted :=
  ⟨rfl, usersMap_eq_accepted (.step (.step .start nofun) fun _ _ h => nomatch h)⟩

/-- A rejected user is in the table and given to the server again. -/
theorem usersMap_rejected :
    let m := (({} : UserManager).call (.add "a" "x") (some "e")).1
    m.usersMap "a" = some "x" ∧ m.accepted "a" = none ∧
      (m.call (.add "b" "y") none).1.accepted "a" = some "x" :=
  ⟨rfl, rfl, rfl⟩

inductive Status
  | created
  | noContent
  | notFound
  | badRequest
deriving DecidableEq

def Call.success : Call → Status
  | .add .. => .created
  | _ => .noContent

/-- The handlers of update and delete look the user up first. -/
def Call.notFound (m : UserManager) : Call → Bool
  | .add .. => false
  | .update username _ | .delete username => (m.usersMap username).isNone

def answer (m : UserManager) (call : Call) (decision : Option String) : UserManager × Status :=
  match m.call call decision with
  | (m, none) => (m, call.success)
  | (m, some _) => (m, .badRequest)

def serve (r : UserManager × List Status) (a : Call × Option String) :
    UserManager × List Status :=
  if a.1.notFound r.1 then (r.1, r.2 ++ [.notFound])
  else ((answer r.1 a.1 a.2).1, r.2 ++ [(answer r.1 a.1 a.2).2])

/-- The requests that have found their user, and the answered ones. -/
structure APIServer where
  user : UserManager := {}
  pending : Table ℕ Call := .empty
  requests : List (Call × Option String) := []
  answers : List Status := []

inductive Action
  | start (i : ℕ) (call : Call)
  | finish (i : ℕ) (decision : Option String)

def APIServer.step (s : APIServer) : Action → APIServer
  | .start i call =>
    if call.notFound s.user then
      { s with requests := s.requests ++ [(call, none)], answers := s.answers ++ [.notFound] }
    else { s with pending := s.pending.insert i call }
  | .finish i decision =>
    match s.pending i with
    | none => s
    | some call =>
      { user := (answer s.user call decision).1
        pending := s.pending.erase i
        requests := s.requests ++ [(call, decision)]
        answers := s.answers ++ [(answer s.user call decision).2] }

/-- The user is still there when the manager is called. -/
def APIServer.Careful (s : APIServer) : Action → Prop
  | .start .. => True
  | .finish i _ => ∀ call, s.pending i = some call → call.notFound s.user = false

/-- If no user is deleted between the halves of a request for it, requests are as if executed in the
order of the answers. -/
theorem foldl_serve_requests {s : APIServer} (h : Run APIServer.step APIServer.Careful {} s) :
    s.requests.foldl serve ({}, []) = (s.user, s.answers) := by
  refine h.invariant (I := fun s => s.requests.foldl serve ({}, []) = (s.user, s.answers)) rfl
    fun s action hs hcareful => ?_
  cases action with
  | start i call =>
    unfold APIServer.step
    dsimp only
    split_ifs with hfound
    · simp [hs, serve, hfound]
    · exact hs
  | finish i decision =>
    unfold APIServer.step
    cases hcall : s.pending i with
    | none => simpa [hcall] using hs
    | some call =>
      have hfound := hcareful call hcall
      simp [hcall, hs, serve, hfound]

/-- An update that is answered before the user is deleted. -/
theorem foldl_serve_requests_update :
    let s : APIServer := [.start 0 (.add "a" "x"), .finish 0 none, .start 1 (.update "a" "y"),
      .finish 1 none, .start 2 (.delete "a"), .finish 2 none].foldl .step {}
    s.answers = [.created, .noContent, .noContent] ∧
      s.requests.foldl serve ({}, []) = (s.user, s.answers) := by
  refine ⟨by decide, foldl_serve_requests (Run.foldl .start ?_)⟩
  simp only [Run.Allowed, APIServer.Careful]
  decide

/-- The user exists although the deletion was answered first; in turn, it does not, or the update is
not found. -/
theorem deleted_user_updated :
    let s : APIServer := [.start 0 (.add "a" "x"), .finish 0 none, .start 1 (.update "a" "y"),
      .start 2 (.delete "a"), .finish 2 none, .finish 1 none].foldl .step {}
    s.answers = [.created, .noContent, .noContent] ∧ s.user.usersMap "a" = some "y" ∧
      ([(Call.add "a" "x", none), (.update "a" "y", none), (.delete "a", none)].foldl serve
        ({}, [])).1.usersMap "a" = none ∧
      ([(Call.add "a" "x", none), (.delete "a", none), (.update "a" "y", none)].foldl serve
        ({}, [])).2 = [.created, .noContent, .notFound] := by
  decide

end SingBox.SSMAPI
