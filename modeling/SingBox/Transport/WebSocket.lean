import Mathlib.Data.List.Induction
import SingBox.Lib.Table

/-!
# Clients that upgrade HTTP connections

The WebSocket client takes `Sec-WebSocket-Protocol` out of the headers it is given. After an error
the connection is not closed.
-/

namespace SingBox.WebSocket
open List

/-! ### The handshake -/

abbrev Header := Table String (List String)

structure URL where
  scheme : String
  host : String
  path : String

structure Client where
  requestURL : URL
  headers : Header
  maxEarlyData : ℕ := 0
  earlyDataHeaderName : String := ""

structure Request where
  url : URL
  header : Header
  protocols : List String

def protocolKey : String := "Sec-Websocket-Protocol"

/-- What `Get` gives: the first value, or nothing. -/
def Header.protocol (headers : Header) : String := ((headers protocolKey).bind head?).getD ""

def dialContext (url : URL) (headers : Header) : Request × Header :=
  let protocolHeader := headers.protocol
  if protocolHeader ≠ "" then
    (⟨url, headers.erase protocolKey, [protocolHeader]⟩, headers.erase protocolKey)
  else (⟨url, headers, []⟩, headers)

def Request.carried (request : Request) : Header :=
  if request.protocols = [] then request.header
  else request.header.insert protocolKey request.protocols

variable (canonical : String → String) (encode : List UInt8 → String)

/-- The request for the content of the first write, which counts only in early-data mode. -/
def Client.handshake (c : Client) (content : List UInt8) : Request × Client :=
  let shared := fun url : URL =>
    let (request, headers) := dialContext url c.headers
    (request, { c with headers })
  let earlyData := content.take c.maxEarlyData
  if earlyData = [] then shared c.requestURL
  else if c.earlyDataHeaderName = "" then
    shared { c.requestURL with path := c.requestURL.path ++ encode earlyData }
  else
    let headers := c.headers.insert (canonical c.earlyDataHeaderName) [encode earlyData]
    ((dialContext c.requestURL headers).1, c)

/-- The requests of dials, and the client afterwards. A dial without a TCP connection has none. -/
def Client.dials : Client → List (List UInt8) → List Request × Client
  | c, [] => ([], c)
  | c, content :: contents =>
    let (request, c) := c.handshake canonical encode content
    let (requests, c) := c.dials contents
    (request :: requests, c)

/-- The configured ones, with the early data. -/
def Client.configured (c : Client) (content : List UInt8) : URL × Header :=
  let earlyData := content.take c.maxEarlyData
  if earlyData = [] then (c.requestURL, c.headers)
  else if c.earlyDataHeaderName = "" then
    ({ c.requestURL with path := c.requestURL.path ++ encode earlyData }, c.headers)
  else (c.requestURL, c.headers.insert (canonical c.earlyDataHeaderName) [encode earlyData])

lemma carried_dialContext {headers : Header}
    (h : headers.protocol = "" ∨ ∃ value, headers protocolKey = some [value]) (url : URL) :
    (dialContext url headers).1.url = url ∧ (dialContext url headers).1.carried = headers := by
  unfold dialContext
  dsimp only
  split_ifs with hprotocol
  · obtain hnone | ⟨value, hvalue⟩ := h
    · exact absurd hnone hprotocol
    · refine ⟨rfl, funext fun key => ?_⟩
      by_cases hkey : key = protocolKey <;>
        simp [Request.carried, Header.protocol, Table.insert, Table.erase, hkey, hvalue]
  · exact ⟨rfl, rfl⟩

variable {canonical encode}

lemma handshake_spec {c : Client} (h : c.headers.protocol = "") (content : List UInt8) :
    (c.handshake canonical encode content).2 = c ∧
      let request := (c.handshake canonical encode content).1
      (request.url, request.carried) = c.configured canonical encode content := by
  have hshared (url : URL) : dialContext url c.headers = (⟨url, c.headers, []⟩, c.headers) := by
    simp [dialContext, h]
  unfold Client.handshake Client.configured
  dsimp only
  split_ifs
  · rw [hshared]
    exact ⟨rfl, rfl⟩
  · rw [hshared]
    exact ⟨rfl, rfl⟩
  · refine ⟨rfl, Prod.ext_iff.2 (carried_dialContext ?_ c.requestURL)⟩
    by_cases hname : protocolKey = canonical c.earlyDataHeaderName
    · exact .inr ⟨_, by rw [Table.insert, if_pos hname]⟩
    · refine .inl ?_
      rwa [Header.protocol, Table.insert, if_neg hname]

lemma dials_of_protocol {c : Client} (h : c.headers.protocol = "") (contents : List (List UInt8)) :
    (c.dials canonical encode contents).2 = c ∧
      (c.dials canonical encode contents).1.map (fun request => (request.url, request.carried)) =
        contents.map (c.configured canonical encode) := by
  induction contents with
  | nil => exact ⟨rfl, rfl⟩
  | cons content contents ih =>
    obtain ⟨hclient, hrequest⟩ := handshake_spec h content
    rw [Client.dials]
    dsimp only
    rw [hclient, map_cons, map_cons, hrequest, ih.1, ih.2]
    exact ⟨rfl, rfl⟩

/-- Every request has the configured headers and URL and the client stays as it is, exactly if no
protocol is configured. -/
theorem dials_configured (c : Client) :
    (∀ contents, (c.dials canonical encode contents).2 = c ∧
      (c.dials canonical encode contents).1.map (fun request => (request.url, request.carried)) =
        contents.map (c.configured canonical encode)) ↔ c.headers.protocol = "" := by
  refine ⟨fun h => ?_, dials_of_protocol⟩
  by_contra hprotocol
  -- One dial without early data takes the protocol out of the headers.
  obtain ⟨hclient, -⟩ := h [[]]
  have hkept : c.headers.erase protocolKey = c.headers := by
    have hheaders := congrArg Client.headers hclient
    simpa [Client.dials, Client.handshake, dialContext, hprotocol] using hheaders
  have hnone : c.headers protocolKey = none := by
    rw [← hkept, Table.erase, if_pos rfl]
  exact hprotocol (by rw [Header.protocol, hnone]; rfl)

theorem dials_configured_early :
    let c : Client := ⟨⟨"ws", "a", "/"⟩, .empty, 1, "Sec-WebSocket-Protocol"⟩
    let dials := c.dials (fun _ => protocolKey) (fun _ => "AQ") [[1, 2], []]
    dials.1.map Request.protocols = [["AQ"], []] ∧ dials.2 = c ∧
      dials.1.map (fun request => (request.url, request.carried)) =
        [[1, 2], []].map (c.configured (fun _ => protocolKey) fun _ => "AQ") :=
  ⟨by decide, (dials_configured _).2 rfl _⟩

/-- The second dial has lost the protocol. -/
theorem dials_protocol_lost :
    let c : Client := ⟨⟨"ws", "a", "/"⟩, Table.empty.insert protocolKey ["p"], 0, ""⟩
    let dials := c.dials id (fun _ => "") [[], []]
    dials.1.map Request.protocols = [["p"], []] ∧
      dials.1.map (fun request => request.carried protocolKey) = [some ["p"], none] ∧
      dials.2.headers protocolKey = none := by
  decide

/-! ### Early data -/

variable {ε : Type}

structure Sockets where
  dialed : ℕ := 0
  closed : List ℕ := []

structure Steps (ε : Type) where
  dial : Option ε
  later : List (Option ε)

def Steps.webSocket (dial handshake carry : Option ε) : Steps ε := ⟨dial, [handshake, carry]⟩

def Steps.httpUpgrade (dial write read status carry : Option ε) : Steps ε :=
  ⟨dial, [write, read, status, carry]⟩

/-- After an error the connection stays open. -/
def Sockets.dial (s : Sockets) (steps : Steps ε) : Sockets × Except ε ℕ :=
  match steps.dial with
  | some err => (s, .error err)
  | none =>
    ({ s with dialed := s.dialed + 1 }, (steps.later.findSome? id).elim (.ok s.dialed) .error)

/-- A connection with early data. That the caller has called `Close` is no field of the source. -/
structure Early (ε : Type) where
  sockets : Sockets := {}
  conn : Option ℕ := none
  err : Option ε := none
  released : Bool := false

inductive Action (ε : Type)
  | write (steps : Steps ε) (late : Option ε)
  | close

def Early.dials (c : Early ε) : Bool := c.conn.isNone && c.err.isNone

/-- The error of writing what is left after the early data. -/
def Early.writeRequest (c : Early ε) (steps : Steps ε) (late : Option ε) : Early ε :=
  match c.sockets.dial steps with
  | (sockets, .error err) => { c with sockets, err := some err }
  | (sockets, .ok conn) =>
    match late with
    | some err => { c with sockets, err := some err }
    | none => { c with sockets, conn := some conn }

def Early.step (c : Early ε) : Action ε → Early ε
  | .write steps late => if c.dials then c.writeRequest steps late else c
  | .close =>
    match c.conn with
    | none => { c with released := true }
    | some conn =>
      { c with released := true, sockets.closed := conn :: c.sockets.closed }

def Steps.Careful (steps : Steps ε) : Prop := steps.dial = none → ∀ err ∈ steps.later, err = none

/-- Such a write does not come after `Close`. -/
def Early.Careful (c : Early ε) : Action ε → Prop
  | .write steps late => c.dials →
      steps.Careful ∧ (steps.dial = none → late = none ∧ c.released = false)
  | .close => True

/-- Each is closed, or held for a caller who has not called `Close`. -/
def Early.Tidy (c : Early ε) : Prop :=
  ∀ n < c.sockets.dialed, n ∈ c.sockets.closed ∨ c.conn = some n ∧ c.released = false

/-- Only what was dialed is held or closed, and a connection that dials has not dialed yet. -/
structure Early.Valid (c : Early ε) : Prop where
  closed : ∀ n ∈ c.sockets.closed, n < c.sockets.dialed
  conn : ∀ n ∈ c.conn, n < c.sockets.dialed
  dials : c.dials → c.sockets.dialed = 0

lemma careful_iff {steps : Steps ε} (h : steps.dial = none) :
    steps.Careful ↔ steps.later.findSome? id = none := by
  rw [Steps.Careful, forall_prop_of_true h, findSome?_eq_none_iff]
  rfl

lemma dial_iff (s : Sockets) (steps : Steps ε) :
    ((s.dial steps).1 = s ∨ s.dial steps = ({ s with dialed := s.dialed + 1 }, .ok s.dialed)) ↔
    steps.Careful := by
  unfold Sockets.dial
  cases hdial : steps.dial with
  | some err => exact iff_of_true (.inl rfl) fun hnone => by cases hdial.symm.trans hnone
  | none =>
    have hother : ({ s with dialed := s.dialed + 1 } : Sockets) ≠ s := fun h => by
      simpa using congrArg Sockets.dialed h
    rw [careful_iff hdial]
    cases steps.later.findSome? id <;> simp [hother]

/-- A write that dials fails before it has a connection, loses the connection, or holds it. -/
lemma step_write {c : Early ε} (h : c.dials) (steps : Steps ε) (late : Option ε) :
    (∃ err, steps.dial = some err ∧ c.step (.write steps late) = { c with err := some err }) ∨
    steps.dial = none ∧
      ((∃ err, ¬(steps.Careful ∧ late = none) ∧ c.step (.write steps late) =
          { c with sockets.dialed := c.sockets.dialed + 1, err := some err }) ∨
        steps.Careful ∧ late = none ∧ c.step (.write steps late) =
          { c with sockets.dialed := c.sockets.dialed + 1, conn := some c.sockets.dialed }) := by
  dsimp only [Early.step]
  rw [if_pos h, Early.writeRequest, Sockets.dial]
  cases hdial : steps.dial with
  | some err => exact .inl ⟨err, rfl, rfl⟩
  | none =>
    refine .inr ⟨rfl, ?_⟩
    rw [careful_iff hdial]
    cases steps.later.findSome? id with
    | some err => exact .inl ⟨err, by simp, rfl⟩
    | none =>
      cases late with
      | some err => exact .inl ⟨err, by simp, rfl⟩
      | none => exact .inr ⟨rfl, rfl, rfl⟩

lemma valid_step {c : Early ε} (hc : c.Valid) (action : Action ε) : (c.step action).Valid := by
  have hlt : ∀ n ∈ c.sockets.closed, n < c.sockets.dialed + 1 :=
    fun n hn => Nat.lt_succ_of_lt (hc.closed n hn)
  cases action with
  | close =>
    dsimp only [Early.step]
    cases hheld : c.conn with
    | none => exact ⟨hc.closed, nofun, fun h => hc.dials (by rwa [Early.dials, hheld])⟩
    | some conn =>
      exact ⟨forall_mem_cons.2 ⟨hc.conn conn hheld, hc.closed⟩,
        fun n hn => hc.conn n (hheld.trans hn), nofun⟩
  | write steps late =>
    by_cases hdials : c.dials
    · have hnone : c.conn = none := by simp_all [Early.dials]
      rcases step_write hdials steps late with
        ⟨err, -, heq⟩ | ⟨-, ⟨err, -, heq⟩ | ⟨-, -, heq⟩⟩
      · rw [heq]
        exact ⟨hc.closed, hc.conn, by simp [Early.dials]⟩
      · rw [heq]
        exact ⟨hlt, by simp [hnone], by simp [Early.dials]⟩
      · rw [heq]
        exact ⟨hlt, by simp, by simp [Early.dials]⟩
    · dsimp only [Early.step]
      rwa [if_neg hdials]

lemma tidy_step_iff {c : Early ε} (hc : c.Valid) (htidy : c.Tidy) (action : Action ε) :
    (c.step action).Tidy ↔ c.Careful action := by
  cases action with
  | close =>
    refine iff_of_true ?_ trivial
    dsimp only [Early.step]
    cases hheld : c.conn with
    | none =>
      intro n hn
      rcases htidy n hn with hmem | ⟨heq, -⟩
      · exact .inl hmem
      · cases hheld.symm.trans heq
    | some conn =>
      intro n hn
      rcases htidy n hn with hmem | ⟨heq, -⟩
      · exact .inl (mem_cons_of_mem _ hmem)
      · obtain rfl : conn = n := Option.some.inj (hheld.symm.trans heq)
        exact .inl mem_cons_self
  | write steps late =>
    dsimp only [Early.Careful]
    by_cases hdials : c.dials
    · have hzero := hc.dials hdials
      have hnone : c.conn = none := by simp_all [Early.dials]
      have hclosed : c.sockets.closed = [] := eq_nil_iff_forall_not_mem.2 fun n hn => by
        have hlt := hc.closed n hn
        omega
      rw [forall_prop_of_true hdials]
      rcases step_write hdials steps late with
        ⟨err, hdial, heq⟩ | ⟨hdial, ⟨err, hfails, heq⟩ | ⟨hsteps, hlate, heq⟩⟩
      · rw [heq]
        have hne : steps.dial ≠ none := by simp [hdial]
        exact iff_of_true htidy ⟨fun h => absurd h hne, fun h => absurd h hne⟩
      · -- The connection that was dialed is neither stored nor closed.
        rw [heq]
        exact iff_of_false (fun h => by simpa [hzero, hclosed, hnone] using h 0)
          fun h => hfails ⟨h.1, (h.2 hdial).1⟩
      · rw [heq]
        simp [Early.Tidy, hzero, hclosed, hsteps, hlate, hdial]
    · dsimp only [Early.step]
      rw [if_neg hdials]
      exact iff_of_true htidy fun h => absurd h hdials

lemma valid_foldl (actions : List (Action ε)) : (actions.foldl Early.step {}).Valid := by
  induction actions using List.reverseRecOn with
  | nil => exact ⟨nofun, nofun, fun _ => rfl⟩
  | append_singleton actions action ih =>
    rw [foldl_append]
    exact valid_step ih action

/-- A dial opens no connection or returns it exactly if nothing fails after dialing. Through all
calls of a connection with early data what was dialed is closed or held, exactly if nothing fails
after dialing and no write that dials comes after `Close`. -/
theorem closed_or_held (s : Sockets) (steps : Steps ε) (actions : List (Action ε)) :
    (((s.dial steps).1 = s ∨ s.dial steps = ({ s with dialed := s.dialed + 1 }, .ok s.dialed)) ↔
      steps.Careful) ∧
    ((∀ before, before <+: actions → (before.foldl Early.step {}).Tidy) ↔
      ∀ before action, before ++ [action] <+: actions →
        (before.foldl Early.step {}).Careful action) := by
  refine ⟨dial_iff s steps, fun h before action hbefore => ?_, fun h before hbefore => ?_⟩
  · have htidy := h before ((prefix_append _ _).trans hbefore)
    have hnext := h (before ++ [action]) hbefore
    rw [foldl_append] at hnext
    exact (tidy_step_iff (valid_foldl before) htidy action).1 hnext
  · induction before using List.reverseRecOn with
    | nil => exact fun n hn => absurd hn (Nat.not_lt_zero n)
    | append_singleton before action ih =>
      have htidy := ih ((prefix_append _ _).trans hbefore)
      rw [foldl_append]
      exact (tidy_step_iff (valid_foldl before) htidy action).2 (h before action hbefore)

/-- A handshake or a status fails, or the late data, or the connection was closed before. -/
theorem not_closed :
    (({} : Sockets).dial (.webSocket none (some ()) none)).1 = ⟨1, []⟩ ∧
      (({} : Sockets).dial (.httpUpgrade none none none (some ()) none)).1 = ⟨1, []⟩ ∧
      (({} : Early Unit).step (.write (.webSocket none none none) (some ()))).sockets = ⟨1, []⟩ ∧
      ((({} : Early Unit).step .close).step (.write (.webSocket none none none) none)).sockets =
        ⟨1, []⟩ :=
  ⟨rfl, rfl, rfl, rfl⟩

end SingBox.WebSocket
