import SingBox.Lib.Run
import Mathlib.Data.List.Nodup

/-!
# The race between HTTP/3 and its fallback

The first response wins; goroutines left behind take the other result and close its body. A state is
`Racing` until a result is returned and `Over` from then on, and `Sound` all the time.
-/

namespace SingBox.HTTPClient.Race
open List Function

/-! ### The race -/

variable {ε : Type}

inductive Kind where
  | h3
  | fallback
deriving DecidableEq

inductive Outcome (ε : Type) where
  | response
  | error (err : ε)

inductive Attempt (ε : Type) where
  | idle
  | running
  | sent (outcome : Outcome ε)
  | received (outcome : Outcome ε)
  /-- Its result was taken by a goroutine that was left behind. -/
  | drained (outcome : Outcome ε)

open Attempt

inductive Timer where
  | armed
  | fired
  | stopped
deriving DecidableEq

structure State (ε : Type) where
  attempts : Kind → Attempt ε
  results : List Kind := []
  goroutines : ℕ := 1
  received : ℕ := 0
  timer : Timer := .armed
  h3Err : Option ε := none
  fallbackErr : Option ε := none
  cancelled : Bool := false
  drains : ℕ := 0
  broken : Bool := false
  /-- What the race has returned: the response of an attempt, or errors. -/
  returned : Option (Kind ⊕ List ε) := none
  starts : Kind → ℕ
  bodyClosed : Kind → Bool := fun _ => false

namespace State
variable (s : State ε)

def setAttempt (kind : Kind) (attempt : Attempt ε) : State ε :=
  { s with attempts := update s.attempts kind attempt }

def startRoundTrip (kind : Kind) : State ε := { s.setAttempt kind .running with
    starts := update s.starts kind (s.starts kind + 1) }

def start (broken : Bool) : State ε :=
  startRoundTrip { attempts := fun _ => .idle, starts := fun _ => 0, broken } .h3

def startFallback : State ε := { s.startRoundTrip .fallback with goroutines := s.goroutines + 1 }

def drainRemaining : State ε := { s with cancelled := true, drains := s.goroutines - s.received }

def takeTimer : State ε :=
  let s := { s with timer := .stopped }
  if s.goroutines = 1 then s.startFallback else s

def continueLoop : State ε := if s.received < s.goroutines then s
  else { s.drainRemaining with returned := some (.inr (s.h3Err.toList ++ s.fallbackErr.toList)) }

def takeError (kind : Kind) (err : ε) : State ε :=
  match kind with
  | .h3 =>
    let s := { s with broken := true, h3Err := some err }
    if s.goroutines = 1 then { s with timer := .stopped }.startFallback else s
  | .fallback => { s with fallbackErr := some err }

def win (kind : Kind) : State ε :=
  let s := if kind = .h3 then { s with broken := false } else s
  { s.drainRemaining with returned := some (.inl kind) }

def judge (kind : Kind) : Outcome ε → State ε
  | .response => s.win kind
  | .error err => (s.takeError kind err).continueLoop

def receive (kind : Kind) (results : List Kind) (outcome : Outcome ε) : State ε :=
  { s.setAttempt kind (.received outcome) with results, received := s.received + 1 }

def takeResult : State ε :=
  match s.results with
  | [] => s
  | kind :: results =>
    match s.attempts kind with
    | .sent outcome => (s.receive kind results outcome).judge kind outcome
    | _ => s

def discard (kind : Kind) (results : List Kind) (outcome : Outcome ε) : State ε :=
  let s := { s.setAttempt kind (.drained outcome) with results, drains := s.drains - 1 }
  match outcome with
  | .response => { s with bodyClosed := update s.bodyClosed kind true }
  | .error _ => s

/-- A goroutine that was left behind takes a result. -/
def drain : State ε :=
  match s.results with
  | [] => s
  | kind :: results =>
    match s.attempts kind with
    | .sent outcome => s.discard kind results outcome
    | _ => s

end State

open State

inductive Action (ε : Type) where
  | timerFires
  | finish (kind : Kind) (outcome : Outcome ε)
  | takeTimer
  | takeResult
  | drain
  | closeBody

def step (s : State ε) : Action ε → State ε
  | .timerFires => { s with timer := .fired }
  | .finish kind outcome =>
    { s.setAttempt kind (.sent outcome) with results := s.results ++ [kind] }
  | .takeTimer => s.takeTimer
  | .takeResult => s.takeResult
  | .drain => s.drain
  | .closeBody =>
    match s.returned with
    | some (.inl kind) => { s with bodyClosed := update s.bodyClosed kind true }
    | _ => s

def Possible (s : State ε) : Action ε → Prop
  | .timerFires => s.timer = .armed ∧ s.returned = none
  | .finish kind _ => s.attempts kind = .running
  | .takeTimer => s.timer = .fired ∧ s.returned = none
  | .takeResult => s.results ≠ [] ∧ s.returned = none
  | .drain => s.results ≠ [] ∧ 0 < s.drains
  | .closeBody => True

def Attempt.outcome? : Attempt ε → Option (Outcome ε)
  | .idle | .running => none
  | .sent outcome | .received outcome | .drained outcome => some outcome

def Attempt.isPending : Attempt ε → Bool
  | .running | .sent _ => true
  | .idle | .received _ | .drained _ => false

def State.count (s : State ε) (p : Attempt ε → Bool) : ℕ :=
  (p (s.attempts .h3)).toNat + (p (s.attempts .fallback)).toNat

/-! ### What is to hold -/

structure Fair (s : State ε) : Prop where
  /-- After the race someone is there for every result left. -/
  drains : s.returned ≠ none → s.drains = s.count isPending
  /-- When no result is left, the bodies of the others are closed. -/
  closed : s.returned ≠ none → s.count isPending = 0 → ∀ kind,
    (s.attempts kind).outcome? = some .response → s.returned ≠ some (.inl kind) → s.bodyClosed kind
  starts : ∀ kind, s.starts kind ≤ 1
  /-- An error is returned only after both attempts have failed. -/
  failed : ∀ errs, s.returned = some (.inr errs) →
    ∀ kind, s.starts kind = 1 ∧ ∃ err, (s.attempts kind).outcome? = some (.error err)

structure Proper (s : State ε) : Prop extends Fair s where
  /-- The context is not cancelled before the body is closed. -/
  context : ∀ kind, s.returned = some (.inl kind) → s.bodyClosed kind = false → s.cancelled = false

def Attempt.isIdle : Attempt ε → Bool
  | .idle => true
  | _ => false

def Attempt.isReceived : Attempt ε → Bool
  | .received _ => true
  | _ => false

/-! ### The invariants -/

structure Sound (s : State ε) : Prop where
  starts : ∀ kind, s.starts kind = if (s.attempts kind).isIdle then 0 else 1
  h3 : (s.attempts .h3).isIdle = false
  goroutines : s.goroutines = if (s.attempts .fallback).isIdle then 1 else 2
  nodup : s.results.Nodup
  results : ∀ kind, kind ∈ s.results ↔ ∃ outcome, s.attempts kind = .sent outcome

lemma Sound.of_eq {s t : State ε} (h : Sound s) (hstarts : t.starts = s.starts)
    (hattempts : t.attempts = s.attempts) (hgoroutines : t.goroutines = s.goroutines)
    (hresults : t.results = s.results) : Sound t := by
  obtain ⟨h₁, h₂, h₃, h₄, h₅⟩ := h
  constructor <;> simp [hstarts, hattempts, hgoroutines, hresults] <;> assumption

structure Racing (s : State ε) : Prop where
  returned : s.returned = none
  cancelled : s.cancelled = false
  drains : s.drains = 0
  bodyClosed : ∀ kind, s.bodyClosed kind = false
  received : s.received = s.count isReceived
  errors : ∀ kind, (s.attempts kind).isIdle ∨ (s.attempts kind).isPending ∨
    ∃ err, s.attempts kind = .received (.error err)
  /-- The fallback is started at the latest when HTTP/3 has failed. -/
  started : (s.attempts .fallback).isIdle → (s.attempts .h3).isPending

structure Over (s : State ε) : Prop where
  returned : s.returned ≠ none
  cancelled : s.cancelled
  drains : s.drains = s.count isPending
  closed : ∀ kind, s.attempts kind = .drained .response → s.bodyClosed kind
  won : ∀ kind, s.attempts kind = .received .response ↔ s.returned = some (.inl kind)
  failed : ∀ errs, s.returned = some (.inr errs) →
    ∀ kind, ∃ err, s.attempts kind = .received (.error err)

lemma sound_start (broken : Bool) : Sound (.start broken : State ε) where
  starts kind := by cases kind <;> rfl
  h3 := rfl
  goroutines := rfl
  nodup := nodup_nil
  results kind := by cases kind <;> simp [start, startRoundTrip, setAttempt]

lemma racing_start (broken : Bool) : Racing (.start broken : State ε) where
  returned := rfl
  cancelled := rfl
  drains := rfl
  bodyClosed _ := rfl
  received := rfl
  errors kind := by
    cases kind
    · exact .inr (.inl rfl)
    · exact .inl rfl
  started _ := rfl

/-! ### Single attempts -/

lemma setAttempt_self (s : State ε) (kind : Kind) (attempt : Attempt ε) :
    (s.setAttempt kind attempt).attempts kind = attempt := by simp [setAttempt]

variable {s : State ε} {attempt a : Attempt ε} {action : Action ε} {actions : List (Action ε)}

lemma setAttempt_of_ne {kind kind' : Kind} (h : kind' ≠ kind)
    (attempt : Attempt ε) : (s.setAttempt kind attempt).attempts kind' = s.attempts kind' := by
  simp [setAttempt, h]

variable {kind : Kind}

lemma setAttempt_congr {α : Type} (f : Attempt ε → α) (h : f attempt = f (s.attempts kind))
    (kind' : Kind) :
    f ((s.setAttempt kind attempt).attempts kind') = f (s.attempts kind') := by
  rcases eq_or_ne kind' kind with rfl | hne
  · rw [setAttempt_self, h]
  · rw [setAttempt_of_ne hne]

lemma count_setAttempt (p : Attempt ε → Bool) (s : State ε) (kind : Kind) (attempt : Attempt ε) :
    (s.setAttempt kind attempt).count p + (p (s.attempts kind)).toNat =
    s.count p + (p attempt).toNat := by
  cases kind
  · simp only [State.count, State.setAttempt, update_self,
      update_of_ne (show Kind.fallback ≠ .h3 by decide)]
    omega
  · simp only [State.count, State.setAttempt, update_self,
      update_of_ne (show Kind.h3 ≠ .fallback by decide)]
    omega

lemma sound_finish (h : Sound s) (hkind : s.attempts kind = .running)
    (outcome : Outcome ε) : Sound (step s (.finish kind outcome)) := by
  have hidle : ∀ kind', ((step s (.finish kind outcome)).attempts kind').isIdle =
      (s.attempts kind').isIdle := setAttempt_congr isIdle (by rw [hkind]; rfl)
  have hnot : kind ∉ s.results := by
    intro hmem
    obtain ⟨outcome', hsent⟩ := (h.results kind).1 hmem
    rw [hkind] at hsent
    nomatch hsent
  constructor
  case starts => exact fun kind' => by rw [hidle]; exact h.starts kind'
  case h3 => rw [hidle]; exact h.h3
  case goroutines => rw [hidle]; exact h.goroutines
  case nodup =>
    exact h.nodup.append (nodup_singleton kind) (disjoint_singleton.2 hnot)
  case results =>
    intro kind'
    change kind' ∈ s.results ++ [kind] ↔
      ∃ outcome', (s.setAttempt kind (.sent outcome)).attempts kind' = .sent outcome'
    rw [mem_append, mem_singleton, h.results]
    rcases eq_or_ne kind' kind with rfl | hne
    · rw [setAttempt_self]
      exact ⟨fun _ => ⟨outcome, rfl⟩, fun _ => .inr rfl⟩
    · rw [setAttempt_of_ne hne, or_iff_left hne]

variable {results : List Kind}

lemma sound_take {s' : State ε} (h : Sound s) (hresults : s.results = kind :: results)
    (hidle : attempt.isIdle = false) (hsent : ∀ outcome, attempt ≠ .sent outcome)
    (hatts : s'.attempts = (s.setAttempt kind attempt).attempts)
    (hresults' : s'.results = results) (hgoroutines : s'.goroutines = s.goroutines)
    (hstarts : s'.starts = s.starts) : Sound s' := by
  obtain ⟨outcome, hkind⟩ := (h.results kind).1 (by rw [hresults]; exact mem_cons_self)
  have hidle' : ∀ kind', (s'.attempts kind').isIdle = (s.attempts kind').isIdle := by
    rw [hatts]
    exact setAttempt_congr isIdle (by rw [hkind, hidle]; rfl)
  obtain ⟨hnot, hnodup⟩ := nodup_cons.1 (hresults ▸ h.nodup)
  constructor
  case starts => exact fun kind' => by rw [hstarts, hidle']; exact h.starts kind'
  case h3 => rw [hidle']; exact h.h3
  case goroutines => rw [hgoroutines, hidle']; exact h.goroutines
  case nodup => rw [hresults']; exact hnodup
  case results =>
    intro kind'
    rw [hresults', hatts]
    rcases eq_or_ne kind' kind with rfl | hne
    · rw [setAttempt_self]
      refine ⟨fun hmem => absurd hmem hnot, fun hout => ?_⟩
      obtain ⟨outcome', hout⟩ := hout
      exact absurd hout (hsent outcome')
    · rw [setAttempt_of_ne hne, ← h.results kind', hresults, mem_cons, or_iff_right hne]

lemma attempts_startFallback (s : State ε) : s.startFallback.attempts .fallback = .running ∧
    s.startFallback.attempts .h3 = s.attempts .h3 :=
  ⟨setAttempt_self s .fallback .running, setAttempt_of_ne (nofun : Kind.h3 ≠ .fallback) .running⟩

lemma sound_startFallback (h : Sound s)
    (hidle : (s.attempts .fallback).isIdle) : Sound s.startFallback := by
  obtain ⟨hself, hoth⟩ := attempts_startFallback s
  constructor
  case starts =>
    rintro ⟨⟩
    · rw [hoth]
      exact h.starts .h3
    · rw [hself]
      change update s.starts .fallback (s.starts .fallback + 1) .fallback = 1
      rw [update_self, h.starts, if_pos hidle]
  case h3 => rw [hoth]; exact h.h3
  case goroutines =>
    rw [hself]
    change s.goroutines + 1 = 2
    rw [h.goroutines, if_pos hidle]
  case nodup => exact h.nodup
  case results =>
    rintro ⟨⟩
    · rw [hoth]
      exact h.results .h3
    · rw [hself]
      refine (h.results .fallback).trans ⟨fun hsent => ?_, fun hsent => ?_⟩
      · obtain ⟨outcome, hsent⟩ := hsent
        rw [hsent] at hidle
        nomatch hidle
      · obtain ⟨outcome, hsent⟩ := hsent
        nomatch hsent

lemma Attempt.eq_idle (h : a.isIdle) : a = .idle := by
  cases a <;> first | rfl | nomatch h

lemma Attempt.isReceived_of_isPending (h : a.isPending) : a.isReceived = false := by
  cases a <;> first | rfl | nomatch h

lemma Attempt.isIdle_of_isPending (h : a.isPending) : a.isIdle = false := by
  cases a <;> first | rfl | nomatch h

lemma count_pending_add_received (hs : Sound s) (h : Racing s) :
    s.count isPending + s.count isReceived = s.goroutines := by
  have hone : ∀ kind, ((s.attempts kind).isPending).toNat + ((s.attempts kind).isReceived).toNat =
      if (s.attempts kind).isIdle then 0 else 1 := by
    intro kind
    rcases h.errors kind with hidle | hpend | ⟨err, hrcv⟩
    · rw [eq_idle hidle]
      rfl
    · rw [hpend, isReceived_of_isPending hpend, isIdle_of_isPending hpend]
      rfl
    · rw [hrcv]
      rfl
  have hh3 := hone .h3
  have hfallback := hone .fallback
  rw [hs.h3, if_neg Bool.false_ne_true] at hh3
  rw [State.count, State.count, hs.goroutines]
  split_ifs at hfallback ⊢ <;> omega

lemma eq_false_of_count {p : Attempt ε → Bool} (h : s.count p = 0) (kind : Kind) :
    p (s.attempts kind) = false := by
  rw [State.count, Nat.add_eq_zero_iff, Bool.toNat_eq_zero, Bool.toNat_eq_zero] at h
  cases kind
  · exact h.1
  · exact h.2

lemma racing_finish (h : Racing s) (hkind : s.attempts kind = .running) (outcome : Outcome ε) :
    Racing (step s (.finish kind outcome)) where
  returned := h.returned
  cancelled := h.cancelled
  drains := h.drains
  bodyClosed := h.bodyClosed
  received := by
    have hcnt := count_setAttempt isReceived s kind (.sent outcome)
    rw [hkind] at hcnt
    exact h.received.trans hcnt.symm
  errors kind' := by
    change (((s.setAttempt kind (.sent outcome)).attempts kind').isIdle ∨
      ((s.setAttempt kind (.sent outcome)).attempts kind').isPending ∨
        ∃ err, (s.setAttempt kind (.sent outcome)).attempts kind' = .received (.error err))
    rcases eq_or_ne kind' kind with rfl | hne
    · rw [setAttempt_self]
      exact .inr (.inl rfl)
    · rw [setAttempt_of_ne hne]
      exact h.errors kind'
  started := by
    change ((s.setAttempt kind (.sent outcome)).attempts .fallback).isIdle →
      ((s.setAttempt kind (.sent outcome)).attempts .h3).isPending
    rw [setAttempt_congr isIdle (by rw [hkind]; rfl),
      setAttempt_congr isPending (by rw [hkind]; rfl)]
    exact h.started

lemma racing_startFallback (hidle : (s.attempts .fallback).isIdle)
    (hret : s.returned = none) (hcancelled : s.cancelled = false) (hdrains : s.drains = 0)
    (hbody : ∀ kind, s.bodyClosed kind = false) (hrcv : s.received = s.count isReceived)
    (herrors : ∀ kind, (s.attempts kind).isIdle ∨ (s.attempts kind).isPending ∨
      ∃ err, s.attempts kind = .received (.error err)) : Racing s.startFallback := by
  obtain ⟨hself, hoth⟩ := attempts_startFallback s
  constructor
  case returned => exact hret
  case cancelled => exact hcancelled
  case drains => exact hdrains
  case bodyClosed => exact hbody
  case received =>
    have hcnt := count_setAttempt isReceived s .fallback .running
    rw [eq_idle hidle] at hcnt
    exact hrcv.trans hcnt.symm
  case errors =>
    rintro ⟨⟩
    · rw [hoth]
      exact herrors .h3
    · rw [hself]
      exact .inr (.inl rfl)
  case started =>
    rw [hself]
    exact fun h => absurd h Bool.false_ne_true

lemma sound_continueLoop (h : Sound s) : Sound s.continueLoop := by
  unfold continueLoop
  split
  · exact h
  · exact h.of_eq rfl rfl rfl rfl

lemma sound_win (h : Sound s) (kind : Kind) : Sound (s.win kind) := by
  unfold win
  split <;> exact h.of_eq rfl rfl rfl rfl

lemma win_bodyClosed (s : State ε) (kind kind' : Kind) :
    (s.win kind).bodyClosed kind' = s.bodyClosed kind' := by
  unfold win
  split <;> rfl

lemma continueLoop_cases (hs : Sound s) (h : Racing s) : s.continueLoop = s ∨
    Over s.continueLoop ∧ ∀ kind, s.continueLoop.returned ≠ some (.inl kind) := by
  unfold continueLoop
  split
  · exact .inl rfl
  · next hge =>
    right
    have hcnt := count_pending_add_received hs h
    rw [← h.received] at hcnt
    have hpend := eq_false_of_count (show s.count isPending = 0 by omega)
    have hrcv : ∀ kind, ∃ err, s.attempts kind = .received (.error err) := by
      intro kind
      rcases h.errors kind with hidle | hp | herr
      · cases kind with
        | h3 => exact absurd (hs.h3.symm.trans hidle) Bool.false_ne_true
        | fallback => exact absurd ((hpend .h3).symm.trans (h.started hidle)) Bool.false_ne_true
      · exact absurd ((hpend kind).symm.trans hp) Bool.false_ne_true
      · exact herr
    refine ⟨?_, fun kind => nofun⟩
    constructor
    case returned => exact nofun
    case cancelled => rfl
    case drains =>
      change s.goroutines - s.received = s.count isPending
      omega
    case closed =>
      intro kind hkind
      obtain ⟨err, hrcv⟩ := hrcv kind
      exact nomatch hrcv.symm.trans hkind
    case won =>
      intro kind
      refine ⟨fun hkind => ?_, nofun⟩
      obtain ⟨err, hrcv⟩ := hrcv kind
      exact nomatch hrcv.symm.trans hkind
    case failed => exact fun _ _ => hrcv

variable {outcome : Outcome ε}

lemma takeResult_eq
    (hresults : s.results = kind :: results) (hkind : s.attempts kind = .sent outcome) :
    s.takeResult = (s.receive kind results outcome).judge kind outcome := by
  simp [takeResult, hresults, hkind]

lemma drain_eq (hresults : s.results = kind :: results) (hkind : s.attempts kind = .sent outcome) :
    s.drain = s.discard kind results outcome := by
  simp [drain, hresults, hkind]

lemma sound_receive (h : Sound s) (hresults : s.results = kind :: results) (outcome : Outcome ε) :
    Sound (s.receive kind results outcome) :=
  @sound_take _ s (.received outcome) kind results _ h hresults rfl (fun _ => nofun) rfl rfl rfl rfl

lemma over_win (hs : Sound s) (h : Racing s) (hkind : s.attempts kind = .sent .response) :
    Over ((s.receive kind results .response).win kind) := by
  set s' := (s.receive kind results .response).win kind with hs'
  have hatts : s'.attempts = (s.setAttempt kind (.received .response)).attempts := by
    rw [hs', win]
    split <;> rfl
  have hdrains : s'.drains = s.goroutines - (s.received + 1) := by
    rw [hs', win]
    split <;> rfl
  have hpend : s'.count isPending + 1 = s.count isPending := by
    have hcnt := count_setAttempt isPending s kind (.received .response)
    rw [hkind] at hcnt
    rw [State.count, hatts]
    exact hcnt
  -- The other attempt is idle, pending or has failed.
  have hoth : ∀ {kind'}, kind' ≠ kind → s'.attempts kind' = s.attempts kind' := by
    intro kind' hne
    rw [hatts, setAttempt_of_ne hne]
  have herrors : ∀ {kind'}, kind' ≠ kind →
      s'.attempts kind' ≠ .received .response ∧ s'.attempts kind' ≠ .drained .response := by
    intro kind' hne
    rw [hoth hne]
    rcases h.errors kind' with hidle | hp | ⟨err, herr⟩
    · rw [eq_idle hidle]
      exact ⟨nofun, nofun⟩
    · constructor
      all_goals
        intro heq
        rw [heq] at hp
        nomatch hp
    · rw [herr]
      exact ⟨nofun, nofun⟩
  constructor
  case returned => exact nofun
  case cancelled => rfl
  case drains =>
    have hcnt := count_pending_add_received hs h
    rw [← h.received] at hcnt
    omega
  case closed =>
    intro kind' hdrained
    rcases eq_or_ne kind' kind with rfl | hne
    · rw [hatts, setAttempt_self] at hdrained
      nomatch hdrained
    · exact absurd hdrained (herrors hne).2
  case won =>
    intro kind'
    change s'.attempts kind' = .received .response ↔ some (Sum.inl kind) = some (Sum.inl kind')
    rcases eq_or_ne kind' kind with rfl | hne
    · rw [hatts, setAttempt_self]
      exact ⟨fun _ => rfl, fun _ => rfl⟩
    · refine ⟨fun hwon => absurd hwon (herrors hne).1, fun heq => ?_⟩
      exact absurd (Sum.inl.inj (Option.some.inj heq)).symm hne
  case failed => exact fun _ hinr => nomatch hinr

lemma takeError_spec (hs : Sound s) (h : Racing s)
    {err : ε} (hresults : s.results = kind :: results)
    (hkind : s.attempts kind = .sent (.error err)) :
    Sound ((s.receive kind results (.error err)).takeError kind err) ∧
    Racing ((s.receive kind results (.error err)).takeError kind err) := by
  set s₁ := s.receive kind results (.error err) with hs₁
  have hsound : Sound s₁ := sound_receive hs hresults _
  have hcnt : s₁.received = s₁.count isReceived := by
    have hcnt := count_setAttempt isReceived s kind (.received (.error err))
    rw [hkind, ← h.received] at hcnt
    exact hcnt.symm
  have herrors : ∀ kind', (s₁.attempts kind').isIdle ∨ (s₁.attempts kind').isPending ∨
      ∃ err, s₁.attempts kind' = .received (.error err) := by
    intro kind'
    rcases eq_or_ne kind' kind with rfl | hne
    · exact .inr (.inr ⟨err, setAttempt_self s kind' _⟩)
    · have hsame : s₁.attempts kind' = s.attempts kind' := setAttempt_of_ne hne _
      rw [hsame]
      exact h.errors kind'
  cases kind with
  | h3 =>
    unfold takeError
    dsimp only
    split
    · next hone =>
      have hidle : (s₁.attempts .fallback).isIdle := by
        by_contra hnot
        rw [hsound.goroutines, if_neg hnot] at hone
        nomatch hone
      constructor
      · exact sound_startFallback (hsound.of_eq rfl rfl rfl rfl) hidle
      · exact racing_startFallback hidle h.returned h.cancelled h.drains h.bodyClosed hcnt herrors
    · next htwo =>
      constructor
      · exact hsound.of_eq rfl rfl rfl rfl
      · refine ⟨h.returned, h.cancelled, h.drains, h.bodyClosed, hcnt, herrors, fun hidle => ?_⟩
        rw [hsound.goroutines, if_pos hidle] at htwo
        exact absurd rfl htwo
  | fallback =>
    constructor
    · exact hsound.of_eq rfl rfl rfl rfl
    · refine ⟨h.returned, h.cancelled, h.drains, h.bodyClosed, hcnt, herrors, fun hidle => ?_⟩
      have hself : s₁.attempts .fallback = .received (.error err) := setAttempt_self s .fallback _
      rw [show ((s₁.takeError .fallback err).attempts .fallback) = _ from hself] at hidle
      nomatch hidle

lemma over_finish (h : Over s) (hkind : s.attempts kind = .running)
    (outcome : Outcome ε) : Over (step s (.finish kind outcome)) := by
  set s' := step s (.finish kind outcome)
  have hself : s'.attempts kind = .sent outcome := setAttempt_self s kind _
  have hoth : ∀ {kind'}, kind' ≠ kind → s'.attempts kind' = s.attempts kind' := fun hne =>
    setAttempt_of_ne hne _
  constructor
  case returned => exact h.returned
  case cancelled => exact h.cancelled
  case drains =>
    have hcnt := count_setAttempt isPending s kind (.sent outcome)
    rw [hkind] at hcnt
    exact h.drains.trans (Nat.add_right_cancel hcnt).symm
  case closed =>
    intro kind' hdrained
    rcases eq_or_ne kind' kind with rfl | hne
    · exact nomatch hself.symm.trans hdrained
    · exact h.closed kind' ((hoth hne).symm.trans hdrained)
  case won =>
    intro kind'
    rw [← show s.returned = s'.returned from rfl, ← h.won kind']
    rcases eq_or_ne kind' kind with rfl | hne
    · rw [hself, hkind]
      exact ⟨nofun, nofun⟩
    · rw [hoth hne]
  case failed =>
    intro errs herrs
    obtain ⟨err, hfailed⟩ := h.failed errs herrs kind
    exact nomatch hkind.symm.trans hfailed

lemma over_discard (h : Over s) (hkind : s.attempts kind = .sent outcome) :
    Over (s.discard kind results outcome) := by
  set s' := s.discard kind results outcome with hs'
  have hatts : s'.attempts = (s.setAttempt kind (.drained outcome)).attempts := by
    rw [hs']
    cases outcome <;> rfl
  have hself : s'.attempts kind = .drained outcome := by rw [hatts, setAttempt_self]
  have hoth : ∀ {kind'}, kind' ≠ kind → s'.attempts kind' = s.attempts kind' := by
    intro kind' hne
    rw [hatts, setAttempt_of_ne hne]
  have hret : s'.returned = s.returned := by
    rw [hs']
    cases outcome <;> rfl
  constructor
  case returned => rw [hret]; exact h.returned
  case cancelled =>
    rw [hs']
    cases outcome <;> exact h.cancelled
  case drains =>
    have hcnt := count_setAttempt isPending s kind (.drained outcome)
    have hdrains : s'.drains = s.drains - 1 := by
      rw [hs']
      cases outcome <;> rfl
    have hsame : s'.count isPending = (s.setAttempt kind (.drained outcome)).count isPending := by
      rw [State.count, hatts, State.count]
    rw [hkind] at hcnt
    rw [hdrains, h.drains, hsame]
    exact Nat.sub_eq_of_eq_add hcnt.symm
  case closed =>
    intro kind' hdrained
    rcases eq_or_ne kind' kind with rfl | hne
    · obtain rfl : outcome = .response := by
        rw [hself] at hdrained
        exact drained.inj hdrained
      exact update_self kind' true s.bodyClosed
    · have hcl := h.closed kind' ((hoth hne).symm.trans hdrained)
      rw [hs']
      cases outcome with
      | response => exact (update_of_ne hne true s.bodyClosed).trans hcl
      | error err => exact hcl
  case won =>
    intro kind'
    rw [hret, ← h.won kind']
    rcases eq_or_ne kind' kind with rfl | hne
    · rw [hself, hkind]
      exact ⟨nofun, nofun⟩
    · rw [hoth hne]
  case failed =>
    intro errs herrs
    rw [hret] at herrs
    obtain ⟨err, hfailed⟩ := h.failed errs herrs kind
    exact nomatch hkind.symm.trans hfailed

lemma over_closeBody (h : Over s) (kind : Kind) :
    Over { s with bodyClosed := update s.bodyClosed kind true } :=
  { h with
    closed := fun kind' hdrained => by
      rcases eq_or_ne kind' kind with rfl | hne
      · exact update_self kind' true s.bodyClosed
      · exact (update_of_ne hne true s.bodyClosed).trans (h.closed kind' hdrained) }

/-! ### The steps -/

def Inv (s : State ε) : Prop := Sound s ∧ (Racing s ∨ Over s)

lemma step_racing (hs : Sound s) (h : Racing s) (hp : Possible s action) :
    Sound (step s action) ∧ (Racing (step s action) ∨ Over (step s action) ∧
      ∀ kind, (step s action).returned = some (.inl kind) →
        (step s action).bodyClosed kind = false) := by
  cases action with
  | timerFires =>
    exact ⟨hs.of_eq rfl rfl rfl rfl, .inl ⟨h.returned, h.cancelled,
      h.drains, h.bodyClosed, h.received, h.errors, h.started⟩⟩
  | finish kind outcome => exact ⟨sound_finish hs hp outcome, .inl (racing_finish h hp outcome)⟩
  | takeTimer =>
    change Sound s.takeTimer ∧ (Racing s.takeTimer ∨ _)
    unfold takeTimer
    dsimp only
    have hsound : Sound { s with timer := .stopped } := hs.of_eq rfl rfl rfl rfl
    split
    · next hone =>
      have hidle : (s.attempts .fallback).isIdle := by
        by_contra hnot
        rw [hs.goroutines, if_neg hnot] at hone
        nomatch hone
      refine ⟨sound_startFallback hsound hidle, .inl (racing_startFallback hidle h.returned
        h.cancelled h.drains h.bodyClosed h.received h.errors)⟩
    · exact ⟨hsound, .inl ⟨h.returned, h.cancelled, h.drains, h.bodyClosed, h.received, h.errors,
        h.started⟩⟩
  | takeResult =>
    obtain ⟨kind, results, hresults⟩ := exists_cons_of_ne_nil hp.1
    obtain ⟨outcome, hkind⟩ := (hs.results kind).1 (by rw [hresults]; exact mem_cons_self)
    have hstep : step s .takeResult = (s.receive kind results outcome).judge kind outcome :=
      takeResult_eq hresults hkind
    rw [hstep]
    cases outcome with
    | response =>
      refine ⟨sound_win (sound_receive hs hresults .response) kind,
        .inr ⟨over_win hs h hkind, fun kind' _ => ?_⟩⟩
      exact (win_bodyClosed _ kind kind').trans (h.bodyClosed kind')
    | error err =>
      obtain ⟨hsound, hracing⟩ := takeError_spec hs h hresults hkind
      refine ⟨sound_continueLoop hsound, ?_⟩
      rcases continueLoop_cases hsound hracing with hsame | ⟨hover, hret⟩
      · left
        rw [judge, hsame]
        exact hracing
      · exact .inr ⟨hover, fun kind' hkind' => absurd hkind' (hret kind')⟩
  | drain => exact absurd (h.drains ▸ hp.2) (Nat.lt_irrefl 0)
  | closeBody =>
    have hsame : step s .closeBody = s := by
      simp [step, h.returned]
    rw [hsame]
    exact ⟨hs, .inl h⟩

lemma step_over (hs : Sound s) (h : Over s) (hp : Possible s action) :
    Sound (step s action) ∧ Over (step s action) ∧ (step s action).returned = s.returned := by
  cases action with
  | timerFires => exact absurd hp.2 h.returned
  | finish kind outcome => exact ⟨sound_finish hs hp outcome, over_finish h hp outcome, rfl⟩
  | takeTimer | takeResult => exact absurd hp.2 h.returned
  | drain =>
    obtain ⟨kind, results, hresults⟩ := exists_cons_of_ne_nil hp.1
    obtain ⟨outcome, hkind⟩ := (hs.results kind).1 (by rw [hresults]; exact mem_cons_self)
    have hstep : step s .drain = s.discard kind results outcome := drain_eq hresults hkind
    rw [hstep]
    refine ⟨?_, over_discard h hkind, by cases outcome <;> rfl⟩
    refine @sound_take _ s (.drained outcome) kind results _ hs hresults rfl (fun _ => nofun) ?_
      ?_ ?_ ?_ <;> cases outcome <;> rfl
  | closeBody =>
    simp only [step]
    split
    · next kind hret =>
      exact ⟨hs.of_eq rfl rfl rfl rfl, over_closeBody h kind, rfl⟩
    · exact ⟨hs, h, rfl⟩

lemma fair_of_inv (h : Inv s) : Fair s where
  drains hret := by
    rcases h.2 with hracing | hover
    · exact absurd hracing.returned hret
    · exact hover.drains
  closed hret hcnt kind houtcome hlost := by
    rcases h.2 with hracing | hover
    · exact absurd hracing.returned hret
    have hpend := eq_false_of_count hcnt kind
    cases hatt : s.attempts kind with
    | idle | running =>
      rw [hatt] at houtcome
      nomatch houtcome
    | sent outcome =>
      rw [hatt] at hpend
      nomatch hpend
    | received outcome =>
      rw [hatt] at houtcome
      obtain rfl := Option.some.inj houtcome
      exact absurd ((hover.won kind).1 hatt) hlost
    | drained outcome =>
      rw [hatt] at houtcome
      obtain rfl := Option.some.inj houtcome
      exact hover.closed kind hatt
  starts kind := by
    rw [h.1.starts]
    split <;> decide
  failed errs herrs kind := by
    rcases h.2 with hracing | hover
    · exact absurd (hracing.returned.symm.trans herrs) nofun
    obtain ⟨err, hfailed⟩ := hover.failed errs herrs kind
    rw [h.1.starts, hfailed]
    exact ⟨rfl, err, rfl⟩

lemma step_inv (h : Inv s) (hp : Possible s action) : Inv (step s action) := by
  rcases h.2 with hracing | hover
  · obtain ⟨hs, hstep⟩ := step_racing h.1 hracing hp
    exact ⟨hs, hstep.imp_right And.left⟩
  · obtain ⟨hs, hover', -⟩ := step_over h.1 hover hp
    exact ⟨hs, .inr hover'⟩

lemma inv_of_mem_scanl (h : Inv s) (hp : Run.Allowed step Possible s actions) :
    ∀ s' ∈ actions.scanl step s, Inv s' ∧
    (s'.returned ≠ none → (actions.foldl step s).returned = s'.returned) := by
  induction actions generalizing s with
  | nil =>
    intro s' hs'
    rw [scanl_nil, mem_singleton] at hs'
    rw [hs']
    exact ⟨h, fun _ => rfl⟩
  | cons action actions ih =>
    intro s' hs'
    rw [scanl_cons, mem_cons] at hs'
    have hrest := ih (step_inv h hp.1) hp.2
    rcases hs' with rfl | hs'
    · refine ⟨h, fun hret => ?_⟩
      have hover := h.2.resolve_left fun hracing => hret hracing.returned
      obtain ⟨-, hover', hsame⟩ := step_over h.1 hover hp.1
      have hfst : step s' action ∈ actions.scanl step (step s' action) := by
        cases actions <;> simp
      rw [foldl_cons, (hrest _ hfst).2 hover'.returned, hsame]
    · exact hrest s' hs'

lemma cancelled_of_response (hs : Sound s) (h : Racing s) (hp : Run.Allowed step Possible s actions)
    (hkind : (actions.foldl step s).returned = some (.inl kind)) :
    ∃ s' ∈ actions.scanl step s, s'.returned = some (.inl kind) ∧ s'.bodyClosed kind = false ∧
    s'.cancelled := by
  induction actions generalizing s with
  | nil => exact absurd (h.returned.symm.trans hkind) nofun
  | cons action actions ih =>
    rw [scanl_cons]
    obtain ⟨hs', hracing | ⟨hover, hbody⟩⟩ := step_racing hs h hp.1
    · obtain ⟨s', hmem, hs'⟩ := ih hs' hracing hp.2 hkind
      exact ⟨s', mem_cons_of_mem _ hmem, hs'⟩
    · have hfst : step s action ∈ actions.scanl step (step s action) := by
        cases actions <;> simp
      have hsame := (inv_of_mem_scanl ⟨hs', .inr hover⟩ hp.2 _ hfst).2 hover.returned
      rw [foldl_cons, hsame] at hkind
      exact ⟨_, mem_cons_of_mem _ hfst, hkind, hbody kind hkind, hover.cancelled⟩

/-! ### The step that decides -/

/-- The loop takes a result, and this is a response. -/
def Finds (s : State ε) : Action ε → Prop
  | .takeResult => ∃ kind results, s.results = kind :: results ∧ s.attempts kind = .sent .response
  | _ => False

lemma returned_takeError (s : State ε) (kind : Kind) (err : ε) :
    (s.takeError kind err).returned = s.returned := by
  cases kind with
  | fallback => rfl
  | h3 =>
    rw [takeError]
    dsimp only
    split_ifs <;> rfl

lemma returned_takeResult (h : s.returned = none) :
    (∃ kind, s.takeResult.returned = some (.inl kind)) ↔ Finds s .takeResult := by
  unfold takeResult Finds
  cases hresults : s.results with
  | nil => simp [h]
  | cons kind results =>
    dsimp only
    cases hkind : s.attempts kind with
    | sent outcome =>
      cases outcome with
      | response => exact iff_of_true ⟨kind, rfl⟩ ⟨kind, results, rfl, hkind⟩
      | error err =>
        have hnone :
            ((s.receive kind results (.error err)).takeError kind err).returned = none := by
          rw [returned_takeError]
          exact h
        dsimp only [judge]
        rw [continueLoop]
        split_ifs <;> simp [hnone, hkind]
    | idle | running | received | drained => simp [h, hkind]

lemma returned_step (h : action ≠ .takeResult) : (step s action).returned = s.returned := by
  cases action with
  | takeResult => exact absurd rfl h
  | timerFires => rfl
  | finish kind outcome => rfl
  | takeTimer =>
    dsimp only [step, State.takeTimer]
    split_ifs <;> rfl
  | drain =>
    dsimp only [step, State.drain]
    split
    · rfl
    · split
      · rename_i outcome _
        cases outcome <;> rfl
      · rfl
  | closeBody =>
    dsimp only [step]
    split <;> rfl

lemma not_finds_of_ne (h : action ≠ .takeResult) : ¬Finds s action := by
  cases action with
  | takeResult => exact absurd rfl h
  | timerFires | finish | takeTimer | drain | closeBody => exact id

/-- After the race has returned no result is taken by its loop. -/
lemma returned_foldl (hp : Run.Allowed step Possible s actions) (h : s.returned ≠ none) :
    (actions.foldl step s).returned = s.returned ∧
    Run.Allowed step (fun s action => ¬Finds s action) s actions := by
  induction actions generalizing s with
  | nil => exact ⟨rfl, trivial⟩
  | cons action actions ih =>
    have hne : action ≠ .takeResult := by
      rintro rfl
      exact h hp.1.2
    have hsame : (step s action).returned = s.returned := returned_step hne
    obtain ⟨hfinal, hrest⟩ := ih hp.2 (hsame ▸ h)
    exact ⟨hfinal.trans hsame, not_finds_of_ne hne, hrest⟩

lemma returned_iff (hp : Run.Allowed step Possible s actions) (h : s.returned = none) :
    (∀ kind, (actions.foldl step s).returned ≠ some (.inl kind)) ↔
    Run.Allowed step (fun s action => ¬Finds s action) s actions := by
  induction actions generalizing s with
  | nil => exact iff_of_true (fun kind hkind => by cases h.symm.trans hkind) trivial
  | cons action actions ih =>
    by_cases hne : action = .takeResult
    · subst hne
      rw [foldl_cons]
      cases hret : (step s .takeResult).returned with
      | none =>
        have hnot : ¬Finds s .takeResult := fun hfinds => by
          obtain ⟨kind, hkind⟩ := (returned_takeResult h).2 hfinds
          cases hret.symm.trans hkind
        rw [ih hp.2 hret]
        exact (and_iff_right hnot).symm
      | some value =>
        obtain ⟨hfinal, hrest⟩ := returned_foldl hp.2 (by rw [hret]; exact nofun)
        rw [hfinal, ← not_exists]
        exact (not_congr (returned_takeResult h)).trans (and_iff_left hrest).symm
    · rw [foldl_cons, ih hp.2 ((returned_step hne).trans h)]
      exact (and_iff_right (not_finds_of_ne hne)).symm

def failedRace : List (Action String) :=
  [.finish .h3 (.error "no route"), .takeResult, .finish .fallback (.error "refused"), .takeResult]

/-- All states are as the caller should see them exactly if no result that the loop takes is a
response. -/
theorem proper_iff (broken : Bool) (actions : List (Action ε))
    (hp : Run.Allowed step Possible (.start broken) actions) :
    (∀ s ∈ actions.scanl step (.start broken), Proper s) ↔
      Run.Allowed step (fun s action => ¬Finds s action) (.start broken) actions := by
  have hinv := inv_of_mem_scanl ⟨sound_start broken, .inl (racing_start broken)⟩ hp
  rw [← returned_iff hp (racing_start broken).returned]
  constructor
  · intro h kind hkind
    obtain ⟨s, hs, hret, hbody, hcancelled⟩ :=
      cancelled_of_response (sound_start broken) (racing_start broken) hp hkind
    exact absurd ((h s hs).context kind hret hbody) (by rw [hcancelled]; decide)
  · intro h s hs
    obtain ⟨hinv, hsame⟩ := hinv s hs
    refine { fair_of_inv hinv with context := fun kind hkind => ?_ }
    have hret : s.returned ≠ none := by
      rw [hkind]
      exact nofun
    exact absurd ((hsame hret).trans hkind) (h kind)

theorem proper_iff_both_failed :
    (failedRace.foldl step (.start false)).returned = some (.inr ["no route", "refused"]) ∧
      ∀ s ∈ failedRace.scanl step (.start false), Proper s := by
  refine ⟨rfl, (proper_iff false failedRace ?_).2 ⟨id, ?_, id, ?_, trivial⟩⟩
  · exact ⟨rfl, ⟨cons_ne_nil _ _, rfl⟩, rfl, ⟨cons_ne_nil _ _, rfl⟩, trivial⟩
  · rintro ⟨kind, results, hresults, hkind⟩
    cases hresults
    cases hkind
  · rintro ⟨kind, results, hresults, hkind⟩
    cases hresults
    cases hkind

/-- The context of the response is cancelled when it is returned. -/
theorem not_proper_response : Run.Allowed step Possible (.start false : State String)
      [.finish .h3 .response, .takeResult] ∧
    ∃ s, s ∈ [Action.finish .h3 .response, .takeResult].scanl step (.start false : State String) ∧
      s.returned = some (.inl .h3) ∧ s.bodyClosed .h3 = false ∧ s.cancelled = true :=
  ⟨⟨rfl, ⟨cons_ne_nil _ _, rfl⟩, trivial⟩, _,
    mem_cons_of_mem _ (mem_cons_of_mem _ mem_cons_self), rfl, rfl, rfl⟩

end SingBox.HTTPClient.Race
