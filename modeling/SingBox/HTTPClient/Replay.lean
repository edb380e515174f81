import SingBox.Lib.Table
import Mathlib.Data.Nat.Notation
import Mathlib.Tactic.SplitIfs

/-!
# Bodies of requests and the fallback transports

A body that cannot be created again must not be handed to a second round trip once it may have been
read.
-/

namespace SingBox.HTTPClient.Replay
open List

/-! ### Requests and transports -/

/-- Nothing, `http.NoBody`, or a reader, which `GetBody` makes anew. -/
inductive Body where
  | absent
  | noBody
  | reader (generation : ℕ) (getBody : Bool)
deriving DecidableEq

structure Request where
  https : Bool
  requiresHTTP1 : Bool
  authority : String
  body : Body
deriving DecidableEq

def requestReplayable (request : Request) : Bool :=
  match request.body with
  | .absent | .noBody => true
  | .reader _ getBody => getBody

def Body.recreate : Body → Body
  | .reader generation true => .reader (generation + 1) true
  | body => body

def cloneRequestForRetry (request : Request) : Request :=
  { request with body := request.body.recreate }

inductive Transport where
  | h3Cached
  | h3
  | h2
  | h1
deriving DecidableEq

inductive Outcome where
  | response
  | noCachedConn
  | http2Fallback
  | error (message : String)
  | errors (h3Err fallbackErr : Outcome)
deriving DecidableEq

structure Use where
  transport : Transport
  body : Body
  outcome : Outcome
deriving DecidableEq

def Use.mayHaveRead (use : Use) : Bool :=
  match use.transport, use.outcome with
  | .h3Cached, .noCachedConn => false
  | .h2, .http2Fallback => false
  | _, _ => true

structure Outcomes where
  outcome : Transport → Outcome
  now : ℕ
  /-- In a race the timer starts the fallback while HTTP/3 still runs. -/
  timerFires : Bool
  fallbackFirst : Bool

structure BrokenEntry where
  untilTime : ℕ
  backoff : ℕ

structure Hosts where
  broken : Table String BrokenEntry := .empty
  fallbackAuthority : Table String Unit := .empty

structure Result where
  outcome : Outcome
  hosts : Hosts
  log : List Use

variable (outcomes : Outcomes) (hosts : Hosts) (request : Request) (transport : Transport)

def roundTripOn : Result :=
  let outcome := outcomes.outcome transport
  ⟨outcome, hosts, [⟨transport, request.body, outcome⟩]⟩

def Result.after (result : Result) (log : List Use) : Result :=
  { result with log := log ++ result.log }

variable (authority : String)

def Hosts.isH2Fallback : Bool := authority != "" && (hosts.fallbackAuthority authority).isSome

def Hosts.markH2Fallback : Hosts := if authority = "" then hosts
  else { hosts with fallbackAuthority := hosts.fallbackAuthority.insert authority () }

/-! ### The round trips -/

def h2RoundTrip (allowHTTP1Fallback : Bool) : Result :=
  if !request.https || request.requiresHTTP1 then roundTripOn outcomes hosts request .h1
  else if hosts.isH2Fallback request.authority then
    if !allowHTTP1Fallback then ⟨.http2Fallback, hosts, []⟩
    else roundTripOn outcomes hosts request .h1
  else
    let first := roundTripOn outcomes hosts request .h2
    if first.outcome ≠ .http2Fallback ∨ !allowHTTP1Fallback then first
    else
      (roundTripOn outcomes (hosts.markH2Fallback request.authority)
        (cloneRequestForRetry request) .h1).after first.log

def minBackoff : ℕ := 300

def maxBackoff : ℕ := 172800

variable (now : ℕ)

/-- An entry that is over is removed, and its backoff forgotten. -/
def Hosts.h3Broken : Bool × Hosts := if authority = "" then (false, hosts)
  else
    match hosts.broken authority with
    | none => (false, hosts)
    | some entry =>
      if entry.untilTime ≤ now then
        (false, { hosts with broken := hosts.broken.erase authority })
      else (true, hosts)

def Hosts.clearH3Broken : Hosts :=
  if authority = "" then hosts else { hosts with broken := hosts.broken.erase authority }

def Hosts.markH3Broken : Hosts := if authority = "" then hosts
  else
    let old := ((hosts.broken authority).map BrokenEntry.backoff).getD 0
    let backoff := if old = 0 then minBackoff else min (old * 2) maxBackoff
    { hosts with broken := hosts.broken.insert authority ⟨now + backoff, backoff⟩ }

def Hosts.noteH3 (outcome : Outcome) : Hosts :=
  if outcome = .response then hosts.clearH3Broken authority else hosts.markH3Broken authority now

/-- The fallback of HTTP/3 is always HTTP/2 with its own fallback. -/
def h2FallbackRoundTrip : Result := h2RoundTrip outcomes hosts request true

/-- The fallback is started by the timer, or when HTTP/3 has failed. -/
def roundTripHTTP3Race : Result :=
  let h3 := roundTripOn outcomes hosts (cloneRequestForRetry request) .h3
  let note := fun hosts : Hosts => hosts.noteH3 request.authority outcomes.now h3.outcome
  if h3.outcome = .response ∧ !outcomes.timerFires then { h3 with hosts := note hosts }
  else
    let fallback := h2FallbackRoundTrip outcomes hosts (cloneRequestForRetry request)
    let log := h3.log ++ fallback.log
    -- The result of HTTP/3 is dropped.
    if outcomes.timerFires && outcomes.fallbackFirst && fallback.outcome = .response then
      ⟨.response, fallback.hosts, log⟩
    else if h3.outcome = .response ∨ fallback.outcome = .response then
      ⟨.response, note fallback.hosts, log⟩
    else ⟨.errors h3.outcome fallback.outcome, note fallback.hosts, log⟩

def roundTripHTTP3 : Result :=
  let (broken, hosts) := hosts.h3Broken request.authority outcomes.now
  if broken then h2FallbackRoundTrip outcomes hosts request
  else
    let cached := roundTripOn outcomes hosts request .h3Cached
    if cached.outcome = .response then
      { cached with hosts := hosts.clearH3Broken request.authority }
    else if cached.outcome ≠ .noCachedConn then
      (h2FallbackRoundTrip outcomes (hosts.markH3Broken request.authority outcomes.now)
        (cloneRequestForRetry request)).after cached.log
    else if !requestReplayable request then
      let h3 := roundTripOn outcomes hosts request .h3
      { h3 with hosts := hosts.noteH3 request.authority outcomes.now h3.outcome }.after cached.log
    else (roundTripHTTP3Race outcomes hosts request).after cached.log

def h3RoundTrip : Result :=
  if !request.https || request.requiresHTTP1 then h2RoundTrip outcomes hosts request true
  else roundTripHTTP3 outcomes hosts request

/-! ### Reading a body once -/

def Use.Reads (use : Use) : Prop :=
  (∃ generation getBody, request.body = .reader generation getBody) ∧ use.body = request.body ∧
    use.mayHaveRead

structure ReadOnce (log : List Use) : Prop where
  single : log.Pairwise fun earlier later => ¬(earlier.Reads request ∧ later.Reads request)
  /-- Tried again only if it can be replayed or was not read. -/
  retried : log.Pairwise fun earlier _ =>
    requestReplayable request ∨ earlier.mayHaveRead = false

structure Consumed : Prop where
  https : request.https
  notHTTP1 : request.requiresHTTP1 = false
  notBroken : (hosts.h3Broken request.authority outcomes.now).1 = false
  notReplayable : requestReplayable request = false
  noResponse : outcomes.outcome .h3Cached ≠ .response
  handed : outcomes.outcome .h3Cached ≠ .noCachedConn

variable {outcomes hosts request} {use : Use} {log : List Use}

lemma Use.Reads.mayHaveRead (h : use.Reads request) : use.mayHaveRead := h.2.2

lemma readOnce_nil : ReadOnce request [] := ⟨.nil, .nil⟩

lemma readOnce_singleton (use : Use) : ReadOnce request [use] :=
  ⟨pairwise_singleton _ _, pairwise_singleton _ _⟩

lemma ReadOnce.cons_of_not_read (h : ReadOnce request log) (huse : use.mayHaveRead = false) :
    ReadOnce request (use :: log) := by
  refine ⟨h.single.cons ?_, h.retried.cons fun _ _ => .inr huse⟩
  rintro later - ⟨hreads, -⟩
  simp [hreads.mayHaveRead] at huse

lemma readOnce_cons_of_copies (hreplay : requestReplayable request)
    (hlog : ∀ later ∈ log, ¬later.Reads request) : ReadOnce request (use :: log) := by
  constructor
  · refine pairwise_cons.2 ⟨?_, pairwise_of_forall_mem_list ?_⟩
    · exact fun later hlater h => hlog later hlater h.2
    · exact fun earlier hearlier later _ h => hlog earlier hearlier h.1
  · exact pairwise_of_forall fun _ _ => .inl hreplay

lemma ReadOnce.eq_nil (h : ReadOnce request (use :: log))
    (hreplay : requestReplayable request = false) (huse : use.mayHaveRead) : log = [] := by
  refine eq_nil_iff_forall_not_mem.2 fun later hlater => ?_
  have hretried := (pairwise_cons.1 h.retried).1 later hlater
  simp [hreplay, huse] at hretried

def Body.Newer (request : Request) (body : Body) : Prop :=
  ∀ generation getBody, request.body = .reader generation getBody →
    ∃ generation', generation < generation' ∧ body = .reader generation' true

lemma Body.newer_recreate (h : requestReplayable request) :
    Body.Newer request request.body.recreate := by
  intro generation getBody hbody
  obtain rfl : getBody := by simpa [requestReplayable, hbody] using h
  exact ⟨generation + 1, Nat.lt_succ_self _, by rw [hbody]; rfl⟩

lemma Body.Newer.recreate {body : Body} (h : Body.Newer request body) :
    Body.Newer request body.recreate := by
  intro generation getBody hbody
  obtain ⟨generation', hlt, rfl⟩ := h generation getBody hbody
  exact ⟨generation' + 1, Nat.lt_succ_of_lt hlt, rfl⟩

lemma not_reads_of_newer (h : Body.Newer request use.body) : ¬use.Reads request := by
  rintro ⟨⟨generation, getBody, hbody⟩, hsame, -⟩
  obtain ⟨generation', hlt, hnew⟩ := h generation getBody hbody
  rw [hsame, hbody, Body.reader.injEq] at hnew
  omega

lemma log_roundTripOn : (roundTripOn outcomes hosts request transport).log =
    [⟨transport, request.body, outcomes.outcome transport⟩] := rfl

variable (allow : Bool)

lemma log_h2RoundTrip : (h2RoundTrip outcomes hosts request allow).log = [] ∧ allow = false ∨
    (∃ transport, (h2RoundTrip outcomes hosts request allow).log =
        [⟨transport, request.body, outcomes.outcome transport⟩]) ∨
    (h2RoundTrip outcomes hosts request allow).log = [⟨.h2, request.body, .http2Fallback⟩,
          ⟨.h1, request.body.recreate, outcomes.outcome .h1⟩] := by
  unfold h2RoundTrip
  dsimp only
  split_ifs with hplain hfallback hallow hfst
  · exact .inr (.inl ⟨.h1, rfl⟩)
  · exact .inl ⟨rfl, by simpa using hallow⟩
  · exact .inr (.inl ⟨.h1, rfl⟩)
  · exact .inr (.inl ⟨.h2, rfl⟩)
  · have hrefused : outcomes.outcome .h2 = .http2Fallback :=
      Decidable.not_not.1 fun hne => hfst (.inl hne)
    exact .inr (.inr (by simp [Result.after, roundTripOn, cloneRequestForRetry, hrefused]))

lemma readOnce_h2RoundTrip : ReadOnce request (h2RoundTrip outcomes hosts request allow).log := by
  obtain ⟨hlog, -⟩ | ⟨transport, hlog⟩ | hlog := @log_h2RoundTrip outcomes hosts request allow
  · exact hlog ▸ readOnce_nil
  · exact hlog ▸ readOnce_singleton _
  · exact hlog ▸ (readOnce_singleton _).cons_of_not_read rfl

lemma not_reads_h2FallbackRoundTrip {request' : Request} (h : Body.Newer request request'.body) :
    ∀ use ∈ (h2FallbackRoundTrip outcomes hosts request').log, ¬use.Reads request := by
  intro use huse
  unfold h2FallbackRoundTrip at huse
  obtain ⟨-, hallow⟩ | ⟨transport, hlog⟩ | hlog := @log_h2RoundTrip outcomes hosts request' true
  · exact absurd hallow.symm Bool.false_ne_true
  · rw [hlog, mem_singleton] at huse
    exact not_reads_of_newer (by rw [huse]; exact h)
  · rw [hlog, mem_cons, mem_singleton] at huse
    obtain rfl | rfl := huse
    · exact not_reads_of_newer h
    · exact not_reads_of_newer h.recreate

lemma log_h2FallbackRoundTrip_ne_nil : (h2FallbackRoundTrip outcomes hosts request).log ≠ [] := by
  unfold h2FallbackRoundTrip
  obtain ⟨-, hallow⟩ | ⟨transport, hlog⟩ | hlog := @log_h2RoundTrip outcomes hosts request true
  · exact absurd hallow.symm Bool.false_ne_true
  · exact hlog ▸ cons_ne_nil _ _
  · exact hlog ▸ cons_ne_nil _ _

lemma not_reads_roundTripHTTP3Race (h : requestReplayable request) :
    ∀ use ∈ (roundTripHTTP3Race outcomes hosts request).log, ¬use.Reads request := by
  have hnewer : Body.Newer request (cloneRequestForRetry request).body := Body.newer_recreate h
  have hh3 : ∀ use ∈ (roundTripOn outcomes hosts (cloneRequestForRetry request) .h3).log,
      ¬use.Reads request := by
    intro use huse
    rw [log_roundTripOn, mem_singleton] at huse
    exact not_reads_of_newer (by rw [huse]; exact hnewer)
  have hboth := forall_mem_append.2
    ⟨hh3, @not_reads_h2FallbackRoundTrip outcomes hosts request _ hnewer⟩
  unfold roundTripHTTP3Race
  dsimp only
  split_ifs
  · exact hh3
  all_goals exact hboth

lemma readOnce_roundTripHTTP3Race (h : requestReplayable request) :
    ReadOnce request (roundTripHTTP3Race outcomes hosts request).log := by
  have hcopies := @not_reads_roundTripHTTP3Race outcomes hosts request h
  cases hlog : (roundTripHTTP3Race outcomes hosts request).log with
  | nil => exact readOnce_nil
  | cons use log =>
    rw [hlog] at hcopies
    exact readOnce_cons_of_copies h (forall_mem_cons.1 hcopies).2

lemma mayHaveRead_h3Cached {body : Body} {outcome : Outcome} (h : outcome ≠ .noCachedConn) :
    Use.mayHaveRead ⟨.h3Cached, body, outcome⟩ := by
  cases outcome with
  | noCachedConn => exact absurd rfl h
  | _ => rfl

lemma readOnce_roundTripHTTP3 (h : ¬Consumed outcomes hosts request)
    (hhttps : request.https) (hhttp1 : request.requiresHTTP1 = false) :
    ReadOnce request (roundTripHTTP3 outcomes hosts request).log := by
  unfold roundTripHTTP3
  dsimp only
  split_ifs with hbroken hresp hhanded hreplay
  · exact readOnce_h2RoundTrip true
  · exact readOnce_singleton _
  · -- The cached connection has failed, so the request can be replayed.
    have hreplay : requestReplayable request := by
      refine Bool.of_not_eq_false fun hreplay => h ?_
      exact ⟨hhttps, hhttp1, Bool.of_not_eq_true hbroken, hreplay, hresp, hhanded⟩
    exact readOnce_cons_of_copies hreplay
      (not_reads_h2FallbackRoundTrip (Body.newer_recreate hreplay))
  · have hunread : outcomes.outcome .h3Cached = .noCachedConn := Decidable.not_not.1 hhanded
    refine (readOnce_singleton _).cons_of_not_read ?_
    exact congrArg (fun outcome => Use.mayHaveRead ⟨.h3Cached, request.body, outcome⟩) hunread
  · have hunread : outcomes.outcome .h3Cached = .noCachedConn := Decidable.not_not.1 hhanded
    have hreplay : requestReplayable request := by simpa using hreplay
    refine (readOnce_roundTripHTTP3Race hreplay).cons_of_not_read ?_
    exact congrArg (fun outcome => Use.mayHaveRead ⟨.h3Cached, request.body, outcome⟩) hunread

lemma Consumed.not_readOnce (h : Consumed outcomes hosts request) :
    ¬ReadOnce request (roundTripHTTP3 outcomes hosts request).log := by
  have hlog : (roundTripHTTP3 outcomes hosts request).log =
      ⟨.h3Cached, request.body, outcomes.outcome .h3Cached⟩ :: (h2FallbackRoundTrip outcomes
          ((hosts.h3Broken request.authority outcomes.now).2.markH3Broken request.authority
            outcomes.now) (cloneRequestForRetry request)).log := by
    unfold roundTripHTTP3
    simp [h.notBroken, h.noResponse, h.handed, roundTripOn, Result.after]
  intro honce
  rw [hlog] at honce
  exact log_h2FallbackRoundTrip_ne_nil
    (honce.eq_nil h.notReplayable (mayHaveRead_h3Cached h.handed))

def streamed : Request := ⟨true, false, "example.org:443", .reader 0 false⟩

def brokenUpload : Outcomes where
  outcome
    | .h3Cached => .error "stream reset"
    | _ => .response
  now := 0
  timerFires := false
  fallbackFirst := false

variable (outcomes hosts request)

/-- A body is handed to at most one round trip that may have read it, unless it is replayable or a
cached connection failed. -/
theorem readOnce_iff : (ReadOnce request (h3RoundTrip outcomes hosts request).log ∧
      ∀ allow, ReadOnce request (h2RoundTrip outcomes hosts request allow).log) ↔
      ¬Consumed outcomes hosts request := by
  constructor
  · rintro ⟨honce, -⟩ h
    have hh3 : h3RoundTrip outcomes hosts request = roundTripHTTP3 outcomes hosts request := by
      simp [h3RoundTrip, h.https, h.notHTTP1]
    exact h.not_readOnce (hh3 ▸ honce)
  · refine fun h => ⟨?_, readOnce_h2RoundTrip⟩
    unfold h3RoundTrip
    split_ifs with hplain
    · exact readOnce_h2RoundTrip true
    · have hhttp3 : request.https = true ∧ request.requiresHTTP1 = false := by simpa using hplain
      exact readOnce_roundTripHTTP3 h hhttp3.1 hhttp3.2

/-- The rest of an upload is sent as if it were the whole body. -/
theorem not_readOnce_brokenUpload : (h3RoundTrip brokenUpload {} streamed).outcome = .response ∧
      (h3RoundTrip brokenUpload {} streamed).log =
        [⟨.h3Cached, .reader 0 false, .error "stream reset"⟩, ⟨.h2, .reader 0 false, .response⟩] ∧
      requestReplayable streamed = false ∧
      ¬ReadOnce streamed (h3RoundTrip brokenUpload {} streamed).log := by
  have hlog : (h3RoundTrip brokenUpload {} streamed).log =
      [⟨.h3Cached, .reader 0 false, .error "stream reset"⟩, ⟨.h2, .reader 0 false, .response⟩] := by
    decide +kernel
  refine ⟨by decide +kernel, hlog, rfl, fun honce => ?_⟩
  rw [hlog] at honce
  exact cons_ne_nil _ _ (honce.eq_nil rfl rfl)

end SingBox.HTTPClient.Replay
