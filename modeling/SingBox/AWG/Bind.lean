import Mathlib.Data.Nat.Notation
import SingBox.Lib.Run

/-!
# The packet connections of the AmneziaWG bind

If `Open` fails with IPv6, the IPv4 connection is neither stored nor closed.
-/

namespace SingBox.AWG

/-- The result of `ListenPacket`; a family may not be supported. -/
inductive Listen
  | conn
  | unsupported
  | error (err : String)

structure Bind where
  conn4 : Option ℕ := none
  conn6 : Option ℕ := none
  opened : ℕ := 0
  closed : List ℕ := []

def Bind.connect (b : Bind) : Listen → Except String (Option ℕ) × Bind
  | .conn => (.ok (some b.opened), { b with opened := b.opened + 1 })
  | .unsupported => (.ok none, b)
  | .error err => (.error err, b)

def Bind.isOpen (b : Bind) : Bool := b.conn4.isSome || b.conn6.isSome

def Bind.open (b : Bind) (port : ℕ) (listen4 listen6 : Listen) :
    Except String (List ℕ × ℕ) × Bind :=
  if b.isOpen then (.error "bind is already open", b)
  else
    match b.connect listen4 with
    | (.error err, b) => (.error ("create ipv4 connection: " ++ err), b)
    | (.ok conn4, b) =>
      match b.connect listen6 with
      | (.error err, b) => (.error ("create ipv6 connection: " ++ err), b)
      | (.ok conn6, b) => (.ok (conn4.toList ++ conn6.toList, port), { b with conn4, conn6 })

def Bind.close (b : Bind) (err4 err6 : Option String) : List String × Bind :=
  ((b.conn4.bind fun _ => err4).toList ++ (b.conn6.bind fun _ => err6).toList,
    { b with
      conn4 := none
      conn6 := none
      closed := b.closed ++ b.conn4.toList ++ b.conn6.toList })

inductive Call
  | opening (port : ℕ) (listen4 listen6 : Listen)
  | closing (err4 err6 : Option String)

def step (b : Bind) : Call → Bind
  | .opening port listen4 listen6 => (b.open port listen4 listen6).2
  | .closing err4 err6 => (b.close err4 err6).2

def Keeps (b : Bind) : Call → Prop
  | .opening _ .conn (.error _) => b.isOpen
  | _ => True

def Accounted (b : Bind) : Prop :=
  ∀ conn < b.opened, b.conn4 = some conn ∨ b.conn6 = some conn ∨ conn ∈ b.closed

variable {b : Bind}

lemma open_of_isOpen (h : b.isOpen) (port : ℕ) (listen4 listen6 : Listen) :
    b.open port listen4 listen6 = (.error "bind is already open", b) :=
  if_pos h

lemma open_error {port : ℕ} {listen4 listen6 : Listen} {err : String}
    (hkeeps : Keeps b (.opening port listen4 listen6))
    (h : (b.open port listen4 listen6).1 = .error err) : (b.open port listen4 listen6).2 = b := by
  by_cases hopen : b.isOpen
  · rw [open_of_isOpen hopen]
  · rw [Bind.open, if_neg hopen] at h ⊢
    cases listen4 with
    | error err4 => rfl
    | unsupported =>
      cases listen6 with
      | error err6 => rfl
      | conn | unsupported => cases h
    | conn =>
      cases listen6 with
      | error err6 => exact absurd hkeeps hopen
      | conn | unsupported => cases h

lemma Accounted.open (h : Accounted b) {port : ℕ} {listen4 listen6 : Listen}
    (hkeeps : Keeps b (.opening port listen4 listen6)) :
    Accounted (b.open port listen4 listen6).2 := by
  cases hresult : (b.open port listen4 listen6).1 with
  | error err => rwa [open_error hkeeps hresult]
  | ok result =>
    by_cases hopen : b.isOpen
    · rwa [open_of_isOpen hopen]
    · -- what was opened before is closed, and what is opened now is stored
      have hclosed : ∀ conn < b.opened, conn ∈ b.closed := by
        simp only [Bind.isOpen, Bool.or_eq_true, not_or, Option.not_isSome_iff_eq_none] at hopen
        intro conn hconn
        simpa [hopen] using h conn hconn
      rw [Bind.open, if_neg hopen] at hresult ⊢
      intro conn hconn
      have hclosed' := hclosed conn
      cases listen4 <;> cases listen6 <;> try cases hresult
      all_goals
        simp only [Bind.connect] at hconn ⊢
        grind

lemma Accounted.close (h : Accounted b) (err4 err6 : Option String) :
    Accounted (b.close err4 err6).2 := by
  intro conn hconn
  refine .inr (.inr ?_)
  simp only [Bind.close, List.mem_append, Option.mem_toList]
  obtain h4 | h6 | hclosed := h conn hconn
  · exact .inl (.inr h4)
  · exact .inr h6
  · exact .inl (.inl hclosed)

/-- Unless only IPv6 fails, every connection is stored or closed. -/
theorem accounted_of_run (hrun : Run step Keeps {} b) :
    Accounted b ∧ ∀ port listen4 listen6 err, Keeps b (.opening port listen4 listen6) →
      (b.open port listen4 listen6).1 = .error err → (b.open port listen4 listen6).2 = b := by
  refine ⟨hrun.invariant (fun conn hconn => absurd hconn (Nat.not_lt_zero conn)) ?_,
    fun _ _ _ _ => open_error⟩
  intro b call h hkeeps
  cases call with
  | opening port listen4 listen6 => exact h.open hkeeps
  | closing err4 err6 => exact h.close err4 err6

theorem accounted_of_run_again :
    Accounted ([.opening 0 .conn .conn, .closing none none, .opening 0 .unsupported .conn].foldl
      step {}) :=
  (accounted_of_run (Run.foldl .start (by simp [Run.Allowed, Keeps]))).1

/-- The first connection is lost if the second one fails. -/
theorem not_accounted_of_error :
    ((Bind.open {} 0 .conn (.error "denied")).1 matches .error _) ∧
      ¬ Accounted ([.opening 0 .conn (.error "denied"), .closing none none].foldl step {}) := by
  refine ⟨rfl, fun h => ?_⟩
  simpa [step, Bind.open, Bind.connect, Bind.isOpen, Bind.close] using h 0 Nat.zero_lt_one

end SingBox.AWG
