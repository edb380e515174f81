import SingBox.HTTPClient.Replay
import Mathlib.Algebra.Ring.Nat

/-!
# Backing off from HTTP/3

A request removes an entry whose time is over, and the number of failures with it.
-/

namespace SingBox.HTTPClient.Replay
open Hosts

inductive H3Event where
  | begins (now : ℕ)
  | succeeds
  | fails (now : ℕ)

variable (authority : String)

/-- Requests may overlap: each of these steps holds the lock. -/
def Hosts.on (hosts : Hosts) : String × H3Event → Hosts
  | (host, .begins now) => (hosts.h3Broken host now).2
  | (host, .succeeds) => hosts.clearH3Broken host
  | (host, .fails now) => hosts.markH3Broken host now

def failures (streak : ℕ × ℕ) (event : String × H3Event) : ℕ × ℕ :=
  if event.1 = authority then
    match event.2 with
    | .begins _ => streak
    | .succeeds => (0, 0)
    | .fails now => (streak.1 + 1, now)
  else streak

def doubled (count : ℕ) : ℕ := min (minBackoff * 2 ^ (count - 1)) maxBackoff

/-- No request to the host begins when the time of its entry is over. -/
def Hosts.keeps (hosts : Hosts) : List (String × H3Event) → Bool
  | [] => true
  | (host, event) :: events =>
    (match event with
      | .begins now => host ≠ authority || (hosts.broken authority).all (now < ·.untilTime)
      | _ => true) && (hosts.on (host, event)).keeps events

def Hosts.Remembers (hosts : Hosts) (streak : ℕ × ℕ) : Prop :=
  hosts.broken authority =
    if streak.1 = 0 then none else some ⟨streak.2 + doubled streak.1, doubled streak.1⟩

variable {authority} {hosts : Hosts} {streak : ℕ × ℕ}

lemma doubled_succ (count : ℕ) :
    doubled (count + 1) = if count = 0 then minBackoff else min (doubled count * 2) maxBackoff := by
  unfold doubled minBackoff maxBackoff
  cases count with
  | zero => rfl
  | succ count =>
    rw [if_neg (Nat.succ_ne_zero _), Nat.add_sub_cancel, Nat.add_sub_cancel, Nat.pow_succ]
    omega

lemma doubled_ne_zero (count : ℕ) : doubled count ≠ 0 := by
  have hpos := Nat.two_pow_pos (count - 1)
  unfold doubled minBackoff maxBackoff
  omega

lemma Hosts.on_of_ne {host : String} (hne : authority ≠ host) (event : H3Event) :
    (hosts.on (host, event)).broken authority = hosts.broken authority := by
  cases event with
  | begins now =>
    simp only [on, h3Broken]
    split_ifs
    · rfl
    · split
      · rfl
      · split_ifs <;> simp [Table.erase, hne]
  | succeeds =>
    simp only [on, clearH3Broken]
    split_ifs <;> simp [Table.erase, hne]
  | fails now =>
    simp only [on, markH3Broken]
    split_ifs <;> simp [Table.insert, hne]

lemma Hosts.Remembers.run (hauth : authority ≠ "") {events : List (String × H3Event)}
    (h : hosts.Remembers authority streak) (hkeeps : hosts.keeps authority events) :
    (events.foldl on hosts).Remembers authority
    (events.foldl (failures authority) streak) := by
  induction events generalizing hosts streak with
  | nil => exact h
  | cons event events ih =>
    obtain ⟨host, event⟩ := event
    obtain ⟨hbegins, hkeeps⟩ := Bool.and_eq_true_iff.1 hkeeps
    refine ih ?_ hkeeps
    unfold Hosts.Remembers at h ⊢
    by_cases hhost : authority = host
    · subst hhost
      cases event with
      | begins now =>
        simp only [on, h3Broken, failures, if_neg hauth, if_true]
        split
        · exact h
        · rename_i entry hentry
          have hnow : now < entry.untilTime := by simpa [hentry] using hbegins
          rw [if_neg (Nat.not_le_of_lt hnow)]
          exact h
      | succeeds => simp [on, clearH3Broken, failures, hauth, Table.erase]
      | fails now =>
        simp only [on, markH3Broken, failures, if_neg hauth, h]
        by_cases hzero : streak.1 = 0
        · simp [hzero, Table.insert, doubled_succ 0]
        · simp [hzero, Table.insert, doubled_ne_zero, doubled_succ]
    · rw [on_of_ne hhost, h, failures, if_neg (Ne.symm hhost)]

lemma not_h3_of_mem_h2RoundTrip {outcomes : Outcomes} {request : Request} {use : Use}
    (h : use ∈ (h2RoundTrip outcomes hosts request true).log) :
    use.transport = .h2 ∨ use.transport = .h1 := by
  unfold h2RoundTrip at h
  dsimp only at h
  split_ifs at h <;> simp_all [roundTripOn, Result.after]
  obtain rfl | rfl := h <;> simp

def failing (now : ℕ) : Outcomes := ⟨fun _ => .error "", now, false, false⟩

def page : Request := ⟨true, false, "a:443", .noBody⟩

end SingBox.HTTPClient.Replay
