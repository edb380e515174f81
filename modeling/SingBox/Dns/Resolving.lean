import SingBox.Dns.Client
import SingBox.Lib.Attempts
import SingBox.Lib.Text

/-!
# Asking the servers of a system

A name is completed with the search list, the names are asked in turn or at once, and for each the
servers in turn. A function returns a response and an error, each possibly nil, or does not return.
-/

namespace SingBox.Resolving
open Attempts List

/-! ### Names -/

variable {ε σ : Type}
variable (name : List Char)

def byteLength : ℕ := (name.map Char.utf8Size).sum

def avoidDNS : Bool := name = [] || ".onion".toList <:+ Text.trimSuffix ['.'] name

def Rooted : Prop := ['.'] <:+ name

instance (name : List Char) : Decidable (Rooted name) := inferInstanceAs (Decidable (_ <:+ _))

def TooLong : Prop := 254 < byteLength name ∨ byteLength name = 254 ∧ ¬Rooted name

instance (name : List Char) : Decidable (TooLong name) := inferInstanceAs (Decidable (_ ∨ _))

def nameList (ndots : ℤ) (search : List (List Char)) (name : List Char) : List (List Char) :=
  if TooLong name then []
  else if Rooted name then if avoidDNS name then [] else [name]
  else
    let hasNdots : Bool := ndots ≤ name.count '.'
    let name := name ++ ['.']
    (if hasNdots && !avoidDNS name then [name] else []) ++
      (search.map (name ++ ·)).filter (fun fqdn => !avoidDNS fqdn && byteLength fqdn ≤ 254) ++
      (if !hasNdots && !avoidDNS name then [name] else [])

/-! ### Results -/

inductive NoReturn where
  | nilPointer
  | library
  | blocked
deriving DecidableEq

structure Returned (ε : Type) where
  response : Option Msg
  err : Option ε
deriving DecidableEq

open Returned

def ExactlyOne (outcome : Except NoReturn (Returned ε)) : Prop :=
  ∃ r, outcome = .ok r ∧ (r.response.isSome ↔ r.err = none)

def Returned.check (r : Returned ε) : Except ε (Option Msg) :=
  match r.err with
  | some err => .error err
  | none => .ok r.response

def Definite (outcome : Except NoReturn (Returned ε)) : Prop :=
  ∃ r, outcome = .ok r ∧ (r.err = none → r.response.isSome)

structure Exceptions (ε : Type) where
  new : String → ε
  cause : Option ε → List Char → Except NoReturn (Option ε)
  errors : List ε → Option ε
  rcode : ε → Option ℕ
  cause_some : ∀ err message, ∃ err', cause (some err) message = .ok (some err')
  errors_isSome : ∀ errs, errs ≠ [] → (errors errs).isSome

variable (E : Exceptions ε)

def Exceptions.fail (err : Option ε) (message : List Char) : Except NoReturn (Returned ε) :=
  (E.cause err message).map fun err => ⟨none, err⟩

/-! ### Servers -/

/-- What happens on the network when a server is asked. -/
structure Wire (ε : Type) where
  dialUDP : Option ε
  pack : Option ε
  /-- The error, and whether it says that the message is too long. -/
  write : Option (ε × Bool)
  read : Option (ε × Bool)
  unpack : Except ε Msg
  dialTCP : Option ε
  writeMessage : Option ε
  /-- A message is returned also with the error of `Unpack`. -/
  readMessage : Except ε (Msg × Option ε)

variable (w : Wire ε)

def exchangeTCP : Except NoReturn (Returned ε) :=
  match w.dialTCP with
  | some err => .ok ⟨none, some err⟩
  | none =>
    match w.writeMessage with
    | some err => .ok ⟨none, some err⟩
    | none =>
      match w.readMessage with
      | .error err => .ok ⟨none, some err⟩
      | .ok (message, err) => .ok ⟨some message, err⟩

def exchangeUDP : Except NoReturn (Returned ε) :=
  match w.dialUDP with
  | some err => .ok ⟨none, some err⟩
  | none =>
    match w.pack with
    | some err => E.fail (some err) "pack request".toList
    | none =>
      match w.write with
      | some (_, true) => exchangeTCP w
      | some (err, false) => E.fail (some err) "write request".toList
      | none =>
        match w.read with
        | some (_, true) => exchangeTCP w
        | some (err, false) => E.fail (some err) "read response".toList
        | none =>
          match w.unpack with
          | .error err => E.fail (some err) "unpack response".toList
          | .ok response =>
            if response.hdr.truncated then exchangeTCP w else .ok ⟨some response, none⟩

variable (useTCP : Bool)

def exchangeOne (w : Wire ε) : Except NoReturn (Returned ε) :=
  if useTCP then exchangeTCP w else exchangeUDP E w

structure Try (σ : Type) where
  attempt : ℕ
  turn : ℕ
  server : σ

def tries (attempts : ℤ) (servers : List σ) : List (Try σ) :=
  (range attempts.toNat).flatMap fun i =>
    servers.zipIdx.map fun server => ⟨i, server.2, server.1⟩

def serverOffset (rotate : Bool) (counter : UInt32) : UInt32 := if rotate then counter else 0

def rotated (offset : UInt32) (servers : List σ) : List σ :=
  ofFn fun j : Fin (servers.length % 2 ^ 32) =>
    servers.get ⟨(offset.toNat + j) % 2 ^ 32 % (servers.length % 2 ^ 32),
      (Nat.mod_lt _ (Nat.zero_lt_of_lt j.isLt)).trans_le (Nat.mod_le _ _)⟩

def tryOneName (ask : Try σ → Except NoReturn (Returned ε)) (attempts : ℤ) (servers : List σ)
    (fqdn : List Char) : Except NoReturn (Returned ε) :=
  match tryEach (fun t => (ask t).map check) (tries attempts servers) none with
  | .error stop => .error stop
  | .ok (.ok response) => .ok ⟨response, none⟩
  | .ok (.error lastErr) => E.fail lastErr fqdn

def exchangeSingleRequest (names : List (List Char))
    (tryName : Fin names.length → Except NoReturn (Returned ε)) : Except NoReturn (Returned ε) :=
  match tryEach (fun i => (tryName i).map check) (finRange names.length) none with
  | .error stop => .error stop
  | .ok (.ok response) => .ok ⟨response, none⟩
  | .ok (.error lastErr) => .ok ⟨none, lastErr⟩

def exchangeParallel (names : List (List Char))
    (tryName : Fin names.length → Except NoReturn (Returned ε))
    (schedule : Schedule names.length ε) : Except NoReturn (Returned ε) :=
  match race (fun i => (tryName i).map check) schedule with
  | .error stop => .error stop
  | .ok (.answered response) => .ok ⟨response, none⟩
  | .ok (.failed errs _) => .ok ⟨none, E.errors errs⟩
  | .ok (.cancelled err) => .ok ⟨none, some err⟩
  | .ok .waiting => .error .blocked

def exchange (single : Bool) (names : List (List Char))
    (tryName : Fin names.length → Except NoReturn (Returned ε))
    (schedule : Schedule names.length ε) : Except NoReturn (Returned ε) :=
  if single then exchangeSingleRequest names tryName
  else exchangeParallel E names tryName schedule

variable {E}

/-- `Cause` makes an error of a nil error. -/
def Exceptions.NilFails (E : Exceptions ε) (message : List Char) : Prop :=
  ∃ err, E.cause none message = .ok (some err)

/-! ### Exactly one result -/

@[simp]
lemma exactlyOne_ok_iff {r : Returned ε} :
    ExactlyOne (.ok r) ↔ (r.response.isSome ↔ r.err = none) := by
  constructor
  · rintro ⟨_, hr, hiff⟩
    cases hr
    exact hiff
  · exact fun hiff => ⟨r, rfl, hiff⟩

@[simp]
lemma not_exactlyOne_error {stop : NoReturn} :
    ¬ExactlyOne (.error stop : Except NoReturn (Returned ε)) := by
  rintro ⟨_, hr, _⟩
  cases hr

lemma exactlyOne_response (response : Msg) :
    ExactlyOne (.ok ⟨some response, none⟩ : Except NoReturn (Returned ε)) := by simp

lemma exactlyOne_err (err : ε) : ExactlyOne (.ok ⟨none, some err⟩) := by simp

variable {outcome : Except NoReturn (Returned ε)}

lemma ExactlyOne.definite (h : ExactlyOne outcome) : Definite outcome := by
  obtain ⟨r, hr, hiff⟩ := h
  exact ⟨r, hr, hiff.2⟩

lemma exactlyOne_fail (err : ε) (message : List Char) : ExactlyOne (E.fail (some err) message) := by
  obtain ⟨err', herr'⟩ := E.cause_some err message
  rw [Exceptions.fail, herr']
  exact exactlyOne_err err'

lemma exactlyOne_fail_none_iff {message : List Char} :
    ExactlyOne (E.fail none message) ↔ E.NilFails message := by
  rw [Exceptions.fail, Exceptions.NilFails]
  cases E.cause none message with
  | error stop => simp [Except.map]
  | ok err => cases err <;> simp [Except.map]

lemma definite_exchangeTCP : Definite (exchangeTCP w) := by
  fun_cases exchangeTCP w
  · exact (exactlyOne_err _).definite
  · exact (exactlyOne_err _).definite
  · exact (exactlyOne_err _).definite
  · exact ⟨_, rfl, fun _ => rfl⟩

lemma definite_exchangeUDP : Definite (exchangeUDP E w) := by
  fun_cases exchangeUDP E w
  all_goals first
    | exact definite_exchangeTCP w
    | exact (exactlyOne_fail _ _).definite
    | exact (exactlyOne_err _).definite
    | exact (exactlyOne_response _).definite

lemma definite_exchangeOne (w : Wire ε) : Definite (exchangeOne E useTCP w) := by
  cases useTCP
  · exact definite_exchangeUDP w
  · exact definite_exchangeTCP w

lemma Definite.sound (h : Definite outcome) :
    Sound (fun response => response.isSome) (outcome.map check) := by
  obtain ⟨⟨response, err⟩, rfl, hresp⟩ := h
  refine ⟨_, rfl, fun answer hans => ?_⟩
  cases err with
  | none =>
    cases hans
    exact hresp rfl
  | some err => cases hans

lemma exactlyOne_of_sound (hsound : Sound (fun response => response.isSome) (outcome.map check))
    (hnone : ∀ r, outcome = .ok r → r.response = none) : ExactlyOne outcome := by
  obtain ⟨result, hres, hans⟩ := hsound
  cases outcome with
  | error stop => cases hres
  | ok r =>
    obtain ⟨response, err⟩ := r
    obtain rfl : response = none := hnone _ rfl
    cases hres
    cases err with
    | none => exact absurd (hans none rfl) Bool.false_ne_true
    | some err => exact exactlyOne_err err

variable {servers : List σ} {attempts : ℤ}

lemma tries_eq_nil_iff : tries attempts servers = [] ↔ ¬(0 < attempts ∧ servers ≠ []) := by
  simp only [tries, flatMap_eq_nil_iff, mem_range, map_eq_nil_iff, zipIdx_eq_nil_iff]
  constructor
  · rintro h ⟨hatts, hsrvs⟩
    exact hsrvs (h 0 (by omega))
  · intro h i hi
    by_contra hsrvs
    exact h ⟨by omega, hsrvs⟩

lemma rotated_eq_nil_iff {offset : UInt32} :
    rotated offset servers = [] ↔ servers.length % 2 ^ 32 = 0 := ofFn_eq_nil_iff

variable {ask : Try σ → Except NoReturn (Returned ε)}

lemma exactlyOne_tryOneName (fqdn : List Char) (hask : ∀ t, Definite (ask t)) (hatts : 0 < attempts)
    (hsrvs : servers ≠ []) : ExactlyOne (tryOneName E ask attempts servers fqdn) := by
  have htries : tries attempts servers ≠ [] := fun h =>
    tries_eq_nil_iff.1 h ⟨hatts, hsrvs⟩
  have hset : Settled _ (tryEach _ _ none) :=
    settled_tryEach (fun t _ => (hask t).sound) (.inl htries)
  rw [tryOneName]
  split
  · next h =>
    rw [h] at hset
    exact hset.elim
  · next response h =>
    rw [h] at hset
    obtain ⟨message, rfl⟩ := Option.isSome_iff_exists.1 hset
    exact exactlyOne_response message
  · next lastErr h =>
    rw [h] at hset
    obtain ⟨err, rfl⟩ := Option.isSome_iff_exists.1 hset
    exact exactlyOne_fail err fqdn

lemma tryOneName_of_tries_eq_nil {fqdn : List Char} (h : tries attempts servers = []) :
    tryOneName E ask attempts servers fqdn = E.fail none fqdn := by
  rw [tryOneName, h]
  rfl

lemma response_of_fail {err : Option ε} {message : List Char} {r : Returned ε}
    (h : E.fail err message = .ok r) : r.response = none := by
  rw [Exceptions.fail] at h
  cases hcause : E.cause err message with
  | error stop =>
    rw [hcause] at h
    cases h
  | ok err =>
    rw [hcause] at h
    cases h
    rfl

lemma response_of_check {answer : Option Msg} (hnone : ∀ r, outcome = .ok r → r.response = none)
    (h : outcome.map check = .ok (.ok answer)) : answer = none := by
  cases outcome with
  | error stop => cases h
  | ok r =>
    obtain ⟨response, err⟩ := r
    cases err with
    | none =>
      cases h
      exact hnone _ rfl
    | some err => cases h

section Names
variable {names : List (List Char)} {tryName : Fin names.length → Except NoReturn (Returned ε)}

lemma exactlyOne_exchangeSingleRequest_iff : ExactlyOne (exchangeSingleRequest names tryName) ↔
    Settled (fun response => response.isSome)
    (tryEach (fun i => (tryName i).map check) (finRange names.length) none) := by
  rw [exchangeSingleRequest]
  split
  · next h => simp [h, Settled]
  · next h => simp [h, Settled]
  · next lastErr h => cases lastErr <;> simp [h, Settled]

variable {schedule : Schedule names.length ε}

lemma exactlyOne_exchangeParallel_iff :
    ExactlyOne (exchangeParallel E names tryName schedule) ↔
    Finished (fun response => response.isSome)
    (race (fun i => (tryName i).map check) schedule) := by
  rw [exchangeParallel]
  split
  · next h => simp [h, Finished]
  · next h => simp [h, Finished]
  · next errs hne h =>
    obtain ⟨err, herr⟩ := Option.isSome_iff_exists.1 (E.errors_isSome errs hne)
    simp [h, herr, Finished]
  · next h => simp [h, Finished]
  · next h => simp [h, Finished]

lemma exchange_of_names_eq_nil (hnames : names = []) :
    exchange E true names tryName schedule = .ok ⟨none, none⟩ := by
  subst hnames
  rfl

lemma exactlyOne_exchange_iff {single : Bool}
    (htry : (∀ i, ExactlyOne (tryName i)) ∨ ∀ i r, tryName i = .ok r → r.response = none) :
    (∀ schedule, ExactlyOne (exchange E single names tryName schedule)) ↔
    (single → names ≠ []) ∧ ∀ i, ExactlyOne (tryName i) := by
  cases single with
  | true =>
    have hall : (∀ schedule, ExactlyOne (exchange E true names tryName schedule)) ↔
        ExactlyOne (exchangeSingleRequest names tryName) :=
      ⟨fun h => h (.cancel (E.new "")), fun h _ => h⟩
    rw [hall, exactlyOne_exchangeSingleRequest_iff]
    constructor
    · intro hset
      have hnames : names ≠ [] := by
        rintro rfl
        exact Bool.false_ne_true hset
      refine ⟨fun _ => hnames, ?_⟩
      rcases htry with htry | htry
      · exact htry
      · have hfailed := (forall_failed_of_settled (fun i _ answer hans => ?_) hset).1
        · intro i
          obtain ⟨err, herr⟩ := hfailed i (mem_finRange i)
          exact exactlyOne_of_sound ⟨_, herr, fun answer h => by cases h⟩ (htry i)
        · rw [response_of_check (htry i) hans]
          exact Bool.false_ne_true
    · rintro ⟨hnames, htry⟩
      refine settled_tryEach (fun i _ => (htry i).definite.sound) (.inl ?_)
      rw [Ne, finRange_eq_nil_iff, length_eq_zero_iff]
      exact hnames rfl
  | false =>
    simp only [exchange, Bool.false_eq_true, if_false, exactlyOne_exchangeParallel_iff,
      IsEmpty.forall_iff, true_and]
    constructor
    · intro hfinished i
      rcases htry with htry | htry
      · exact htry i
      · exact exactlyOne_of_sound (sound_of_finished_race (hfinished (.first i (E.new ""))))
          (htry i)
    · exact fun htry => finished_race fun i => (htry i).definite.sound

end Names

/-- One name if they are asked in turn, and a query for each. -/
def Answerable (E : Exceptions ε) (single : Bool) (names : List (List Char)) (attempts : ℤ)
    (sLen : ℕ) : Prop :=
  (single → names ≠ []) ∧ ((0 < attempts ∧ sLen ≠ 0) ∨ ∀ fqdn ∈ names, E.NilFails fqdn)

lemma exactlyOne_exchange_tryOneName_iff {single : Bool} {names : List (List Char)}
    {ask : Fin names.length → Try σ → Except NoReturn (Returned ε)}
    {servers : Fin names.length → List σ} {sLen : ℕ} (hask : ∀ i t, Definite (ask i t))
    (hsrvs : ∀ i, servers i = [] ↔ sLen = 0) :
    (∀ schedules : ∀ n, Schedule n ε, ExactlyOne (exchange E single names
      (fun i => tryOneName E (ask i) attempts (servers i) (names.get i)) (schedules _))) ↔
    Answerable E single names attempts sLen := by
  rw [forall_schedules_iff (p := fun schedule => ExactlyOne (exchange E single names
    (fun i => tryOneName E (ask i) attempts (servers i) (names.get i)) schedule)) (E.new "")]
  by_cases h : 0 < attempts ∧ sLen ≠ 0
  · have hall : ∀ i, ExactlyOne (tryOneName E (ask i) attempts (servers i) (names.get i)) :=
      fun i => exactlyOne_tryOneName _ (hask i) h.1 fun hnil => h.2 ((hsrvs i).1 hnil)
    rw [exactlyOne_exchange_iff (.inl hall), Answerable]
    exact and_congr_right fun _ => iff_of_true hall (.inl h)
  · have htry : ∀ i, tryOneName E (ask i) attempts (servers i) (names.get i) =
        E.fail none (names.get i) := by
      refine fun i => tryOneName_of_tries_eq_nil (tries_eq_nil_iff.2 fun htried => h ?_)
      exact ⟨htried.1, fun hzero => htried.2 ((hsrvs i).2 hzero)⟩
    simp only [htry]
    rw [exactlyOne_exchange_iff (.inr fun i r => response_of_fail), Answerable]
    refine and_congr_right fun _ => ?_
    simp only [exactlyOne_fail_none_iff, h, false_or]
    exact forall_mem_iff_get.symm

end SingBox.Resolving
