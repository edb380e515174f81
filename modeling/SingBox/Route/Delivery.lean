import SingBox.Route.Router

/-!
# What the receiver of a routed connection sees first

The receiver sees what was delivered if no sniff action takes data while data of an earlier one is
buffered.
-/

namespace SingBox
open List CachedConn RuleStep RouteRule

/-! ### What sniffing takes -/

lemma peekStream_delivered (sniffers : List StreamSniffer) (buffers : List Bytes)
    (reads : List StreamRead) (delivered : Bytes) (metadata : InboundContext) (first : Bool)
    (buffer : Bytes) (errors : List SniffError) :
    ∃ data, (peekStream sniffers buffers reads delivered metadata first buffer errors).buffer =
    buffer ++ data ∧
    (peekStream sniffers buffers reads delivered metadata first buffer errors).conn.delivered =
    delivered ++ data := by
  induction reads generalizing delivered metadata first buffer errors with
  | nil => exact ⟨[], by simp [peekStream]⟩
  | cons read reads ih =>
    cases read with
    | setReadDeadline => exact ⟨[], by simp [peekStream]⟩
    | error data => exact ⟨data, by simp [peekStream]⟩
    | ok data =>
      rw [peekStream]
      dsimp only
      split
      · obtain ⟨more, hbuf, hdlv⟩ := ih (delivered ++ data) _ false (buffer ++ data) _
        exact ⟨data ++ more, by rw [hbuf, append_assoc], by rw [hdlv, append_assoc]⟩
      · exact ⟨data, rfl, rfl⟩

lemma actionSniffStream_delivered (env : SniffEnv) (action : SniffAction)
    (metadata : InboundContext) (conn : StreamConn) (inputBuffers : List Bytes) :
    (actionSniffStream env action metadata conn inputBuffers).2.1.delivered =
    conn.delivered ++ (actionSniffStream env action metadata conn inputBuffers).2.2.getD [] := by
  unfold actionSniffStream
  split
  · simp
  · obtain ⟨data, hbuf, hdlv⟩ := peekStream_delivered
      (if action.streamSniffers.isEmpty then env.streamSniffers else action.streamSniffers)
      inputBuffers conn.reads conn.delivered metadata true [] []
    dsimp only
    rw [hdlv, hbuf]
    cases data <;> simp

lemma readPackets_delivered (env : SniffEnv) (action : SniffAction) (reads : List PacketRead)
    (delivered : List PacketBuffer) (metadata : InboundContext)
    (packetBuffers : List PacketBuffer) :
    ∃ packets, (readPackets env action reads delivered metadata packetBuffers).packetBuffers =
    packetBuffers ++ packets ∧
    (readPackets env action reads delivered metadata packetBuffers).conn.delivered =
    delivered ++ packets := by
  induction reads generalizing delivered metadata packetBuffers with
  | nil => exact ⟨[], by simp [readPackets]⟩
  | cons read reads ih =>
    cases read with
    | timeout | error => exact ⟨[], by simp [readPackets]⟩
    | packet packet =>
      rw [readPackets]
      dsimp only
      split
      · obtain ⟨packets, hbufs, hdlv⟩ := ih (delivered ++ [packet]) _ (packetBuffers ++ [packet])
        refine ⟨packet :: packets, ?_, ?_⟩
        · rw [hbufs, append_assoc, singleton_append]
        · rw [hdlv, append_assoc, singleton_append]
      · exact ⟨[packet], rfl, rfl⟩

def readsPackets (env : SniffEnv) (action : SniffAction) (metadata : InboundContext)
    (inputPacketBuffers : List PacketBuffer) : Bool :=
  !skipsPacket action metadata && (sniffBuffered env action inputPacketBuffers metadata).2.isNone

lemma actionSniffPacket_delivered (env : SniffEnv) (action : SniffAction)
    (metadata : InboundContext) (conn : PacketConn) (inputPacketBuffers : List PacketBuffer) :
    if readsPackets env action metadata inputPacketBuffers then
    ∃ packets, (actionSniffPacket env action metadata conn inputPacketBuffers).packetBuffers =
    inputPacketBuffers ++ packets ∧
    (actionSniffPacket env action metadata conn inputPacketBuffers).conn.delivered =
    conn.delivered ++ packets
    else
    (actionSniffPacket env action metadata conn inputPacketBuffers).packetBuffers = [] ∧
    (actionSniffPacket env action metadata conn inputPacketBuffers).conn = conn := by
  unfold readsPackets actionSniffPacket
  by_cases hskip : skipsPacket action metadata
  · simp [hskip]
  · cases hbuffered : sniffBuffered env action inputPacketBuffers metadata with
    | mk metadata' decided =>
      cases decided with
      | some errors => simp [hskip]
      | none =>
        simp only [hskip, Bool.not_false, Option.isNone_none, Bool.and_self, if_true]
        exact readPackets_delivered env action conn.reads conn.delivered metadata'
          inputPacketBuffers

/-! ### Clean searches -/

/-- It takes data while data of an earlier one is buffered. -/
def Flow.takesWhileBuffered (env : RouteEnv) (action : SniffAction) (flow : Flow) : Bool :=
  match flow.input with
  | .none => false
  | .stream conn =>
    !flow.buffers.isEmpty &&
      (actionSniffStream env.toSniffEnv action flow.metadata conn flow.buffers).2.2.isSome
  | .packet _ =>
    !flow.packetBuffers.isEmpty &&
      readsPackets env.toSniffEnv action flow.metadata flow.packetBuffers

def RouteRule.sniffs (rule : RouteRule) (flow : Flow) : Option SniffAction :=
  match rule.action with
  | .sniff action => if rule.rule.match flow.metadata.resetRuleCache then some action else none
  | _ => none

/-- No data is taken from the client while data is buffered. -/
def RouteRule.cleanRound (env : RouteEnv) (rule : RouteRule) (flow : Flow) : Bool :=
  match rule.sniffs flow with
  | some action =>
    !Flow.takesWhileBuffered env action { flow with metadata := flow.metadata.resetRuleCache }
  | none => true

def cleanSearch (env : RouteEnv) : List RouteRule → Flow → Bool
  | [], _ => true
  | rule :: rules, flow =>
    rule.cleanRound env flow &&
      match rule.try env false false flow with
      | .next flow => cleanSearch env rules flow
      | _ => true

/-- Only a matching sniff action changes the client and the buffers. -/
structure Flow.SameData (flow flow' : Flow) : Prop where
  input : flow'.input = flow.input
  buffers : flow'.buffers = flow.buffers
  packetBuffers : flow'.packetBuffers = flow.packetBuffers

def RuleStep.flow? : RuleStep → Option Flow
  | .fatal => none
  | .next flow => some flow
  | .selected flow => some flow

variable {flow flow' : Flow}

lemma RouteRule.try_cases (env : RouteEnv) (rule : RouteRule)
    (h : (rule.try env false false flow).flow? = some flow') :
    (rule.sniffs flow = none ∧ flow.SameData flow') ∨ ∃ action, rule.sniffs flow = some action ∧
    Flow.sniff env action { flow with metadata := flow.metadata.resetRuleCache } =
    some flow' := by
  unfold RouteRule.try at h
  unfold sniffs
  by_cases hm : rule.rule.match flow.metadata.resetRuleCache
  · simp only [hm, if_true] at h ⊢
    unfold act at h
    cases hact : rule.action with
    | sniff action =>
      refine .inr ⟨action, rfl, ?_⟩
      simp only [hact, RuleAction.applyOptions, Bool.false_eq_true, if_false] at h
      cases hsniff : Flow.sniff env action
          { flow with metadata := flow.metadata.resetRuleCache } with
      | none => simp [hsniff, flow?] at h
      | some flow'' => simpa [hsniff, flow?] using h
    | resolve server =>
      simp only [hact] at h
      cases hresolve : actionResolve env server
          (RuleAction.applyOptions (.resolve server) flow.metadata.resetRuleCache) with
      | none => simp [hresolve, flow?] at h
      | some metadata =>
        obtain rfl := by simpa [hresolve, flow?] using h
        exact .inl ⟨rfl, rfl, rfl, rfl⟩
    | bypass outbound options =>
      simp only [hact] at h
      split at h
      all_goals
        simp only [flow?, Option.some.injEq] at h
        subst h
        exact .inl ⟨rfl, rfl, rfl, rfl⟩
    | _ =>
      simp only [hact, flow?, Option.some.injEq] at h
      subst h
      exact .inl ⟨rfl, rfl, rfl, rfl⟩
  · simp only [hm, Bool.false_eq_true, if_false, flow?, Option.some.injEq] at h ⊢
    subst h
    refine .inl ⟨?_, rfl, rfl, rfl⟩
    cases rule.action <;> rfl

/-! ### Streams -/

def Flow.StreamExact (flow : Flow) : Prop :=
  ∃ conn, flow.input = .stream conn ∧ flow.buffers.flatten = conn.delivered ∧
    flow.buffers.length ≤ 1

variable {env : RouteEnv} {action : SniffAction} {rule : RouteRule} {rules : List RouteRule}
  {selected : Option RouteRule} {clean : Bool} {metadata : InboundContext} {target : Target}

lemma Flow.StreamExact.sniff
    (h : flow.StreamExact) (hclean : flow.takesWhileBuffered env action = false)
    (hsniff : flow.sniff env action = some flow') : flow'.StreamExact := by
  obtain ⟨conn, hinput, hflat, hlen⟩ := h
  have hdlv := actionSniffStream_delivered env.toSniffEnv action flow.metadata conn flow.buffers
  unfold Flow.takesWhileBuffered at hclean
  unfold Flow.sniff at hsniff
  rw [hinput] at hclean hsniff
  cases hres : actionSniffStream env.toSniffEnv action flow.metadata conn flow.buffers with
  | mk metadata rest =>
    obtain ⟨conn', newBuffer⟩ := rest
    simp only [hres] at hclean hsniff hdlv
    obtain rfl := by simpa using hsniff
    cases newBuffer with
    | none => exact ⟨conn', rfl, by simpa [hflat] using hdlv.symm, hlen⟩
    | some buffer =>
      -- The action has taken data, so nothing was buffered before.
      have hemp : flow.buffers = [] := by simpa using hclean
      refine ⟨conn', rfl, ?_, by simp [hemp]⟩
      simp [hdlv, ← hflat, hemp]

lemma Flow.StreamExact.round (h : flow.StreamExact) (hclean : rule.cleanRound env flow)
    (hround : (rule.try env false false flow).flow? = some flow') : flow'.StreamExact := by
  rcases rule.try_cases env hround with ⟨-, hsame⟩ | ⟨action, hact, hsniff⟩
  · obtain ⟨conn, hinput, hflat, hlen⟩ := h
    exact ⟨conn, hsame.input.trans hinput, by rw [hsame.buffers, hflat],
      by rw [hsame.buffers]; exact hlen⟩
  · have hbef : ({ flow with metadata := flow.metadata.resetRuleCache } : Flow).StreamExact := h
    refine hbef.sniff ?_ hsniff
    simpa [cleanRound, hact] using hclean

lemma matchRules_induction {P : Bool → Flow → Prop}
    (hround : ∀ {clean flow flow' rule}, P clean flow →
      (RouteRule.try env false false rule flow).flow? = some flow' →
      P (clean && rule.cleanRound env flow) flow')
    (h : P clean flow) (hm : matchRules env false false rules flow = some (selected, flow')) :
    P (clean && cleanSearch env rules flow) flow' := by
  induction rules generalizing flow clean with
  | nil =>
    obtain ⟨-, rfl⟩ : none = selected ∧ flow = flow' := by simpa [SingBox.matchRules] using hm
    rw [cleanSearch, Bool.and_true]
    exact h
  | cons rule rules ih =>
    rw [cleanSearch, ← Bool.and_assoc]
    rw [SingBox.matchRules] at hm
    cases hstep : rule.try env false false flow with
    | fatal => simp [hstep] at hm
    | next flow'' =>
      simp only [hstep] at hm ⊢
      exact ih (hround h (by rw [hstep]; rfl)) hm
    | selected flow'' =>
      obtain ⟨-, rfl⟩ : some rule = selected ∧ flow'' = flow' := by simpa [hstep] using hm
      rw [Bool.and_true]
      exact hround h (by rw [hstep]; rfl)

lemma Flow.StreamExact.matchRules (h : flow.StreamExact) (hclean : cleanSearch env rules flow)
    (hm : matchRules env false false rules flow = some (selected, flow')) :
    flow'.StreamExact := by
  refine matchRules_induction (P := fun clean flow => clean → flow.StreamExact)
    (fun h hround hclean => ?_) (fun _ => h) hm (by rwa [Bool.true_and])
  obtain ⟨hbefore, hrule⟩ := Bool.and_eq_true_iff.1 hclean
  exact (h hbefore).round hrule hround

lemma pending_foldl_cached (buffers : List Bytes) (conn : CachedConn) :
    (buffers.foldl .cached conn).pending = buffers.reverse.flatten ++ conn.pending := by
  induction buffers generalizing conn with
  | nil => rfl
  | cons buffer buffers ih => simp [ih, pending]

lemma delivered_foldl_cached (buffers : List Bytes) (conn : CachedConn) :
    (buffers.foldl .cached conn).delivered = conn.delivered := by
  induction buffers generalizing conn with
  | nil => rfl
  | cons buffer buffers ih => simp [ih, delivered]

lemma Flow.StreamExact.pending_eq (h : flow.StreamExact) :
    ∃ conn, flow.input = .stream conn ∧ (flow.buffers.foldl cached (.client conn)).pending =
    (flow.buffers.foldl cached (.client conn)).delivered := by
  obtain ⟨conn, hinput, hflat, hlen⟩ := h
  refine ⟨conn, hinput, ?_⟩
  have hreverse : flow.buffers.reverse = flow.buffers := by
    match flow.buffers, hlen with
    | [], _ => rfl
    | [_], _ => rfl
  rw [pending_foldl_cached, delivered_foldl_cached, hreverse, hflat]
  simp [pending, delivered]

/-! ### Packets -/

/-- They hold what was delivered, or too much after an unclean round. -/
def Flow.PacketState (clean : Bool) (flow : Flow) : Prop := ∃ conn, flow.input = .packet conn ∧
    if clean then flow.packetBuffers = conn.delivered
    else conn.delivered.length < flow.packetBuffers.length

lemma Flow.PacketState.sniff (h : flow.PacketState clean)
    (hsniff : flow.sniff env action = some flow') :
    flow'.PacketState (clean && !flow.takesWhileBuffered env action) := by
  obtain ⟨conn, hinput, hst⟩ := h
  have hdlv := actionSniffPacket_delivered env.toSniffEnv action flow.metadata conn
    flow.packetBuffers
  unfold Flow.takesWhileBuffered
  unfold Flow.sniff at hsniff
  simp only [hinput] at hsniff ⊢
  generalize actionSniffPacket env.toSniffEnv action flow.metadata conn flow.packetBuffers =
    sniffed at hsniff hdlv
  cases hfatal : sniffed.fatal with
  | true => simp [hfatal] at hsniff
  | false =>
    obtain rfl := by simpa [hfatal] using hsniff
    refine ⟨sniffed.conn, rfl, ?_⟩
    cases hreads : readsPackets env.toSniffEnv action flow.metadata flow.packetBuffers with
    | false =>
      obtain ⟨hpkts, hconn⟩ := by simpa [hreads] using hdlv
      simpa [hpkts, hconn] using hst
    | true =>
      obtain ⟨packets, hpkts, hconn⟩ := by simpa [hreads] using hdlv
      cases clean with
      | false =>
        simp only [Bool.false_and, Bool.false_eq_true, if_false] at hst ⊢
        simp only [hpkts, hconn, length_append]
        omega
      | true =>
        simp only [if_true] at hst
        cases hbufs : flow.packetBuffers with
        | nil =>
          rw [hbufs] at hpkts hst
          simp [hpkts, hconn, ← hst]
        | cons packet rest =>
          -- The packets buffered before are in the buffers twice now.
          simp only [isEmpty_cons, Bool.not_false, Bool.and_self, Bool.not_true,
            Bool.and_false, Bool.false_eq_true, if_false, hconn, ← hst, hbufs, hpkts,
            length_append, length_cons]
          omega

lemma Flow.PacketState.round (h : flow.PacketState clean)
    (hround : (rule.try env false false flow).flow? = some flow') :
    flow'.PacketState (clean && rule.cleanRound env flow) := by
  unfold cleanRound
  rcases rule.try_cases env hround with ⟨hnone, hsame⟩ | ⟨action, hact, hsniff⟩
  · obtain ⟨conn, hinput, hst⟩ := h
    rw [hnone, Bool.and_true]
    exact ⟨conn, hsame.input.trans hinput, by rw [hsame.packetBuffers]; exact hst⟩
  · have hbef :
        ({ flow with metadata := flow.metadata.resetRuleCache } : Flow).PacketState clean := h
    rw [hact]
    exact hbef.sniff hsniff

/-- The packet buffers hold what the client has delivered if the search was clean, and too much
otherwise. -/
lemma Flow.PacketState.matchRules (h : flow.PacketState clean)
    (hm : matchRules env false false rules flow = some (selected, flow')) :
    flow'.PacketState (clean && cleanSearch env rules flow) :=
  matchRules_induction Flow.PacketState.round h hm

def cleanRouting (env : RouteEnv) (metadata : InboundContext) (input : Input) : Bool :=
  if metadata.inboundType == "tun" && metadata.protocol == "dns" then true
  else
    match preparedMetadata env metadata with
    | none => true
    | some metadata => cleanSearch env env.rules { metadata, input }

lemma routeConnection_handed {conn : StreamConn} {cached : CachedConn}
    (h : routeConnection env metadata conn = .handed target cached) :
    cached = .client conn ∨ (metadata.inboundType == "tun" && metadata.protocol == "dns") = false ∧
    ∃ selected flow, matchRule env { metadata with network := "tcp" } false false (.stream conn) =
    some (selected, flow) ∧
    ∀ conn', flow.input = .stream conn' →
    cached = flow.buffers.foldl .cached (.client conn') := by
  unfold routeConnection at h
  dsimp only at h
  split at h
  · left
    injection h with _ hca
    exact hca.symm
  next htun =>
    refine .inr ⟨Bool.eq_false_iff.2 htun, ?_⟩
    split at h
    · simp at h
    next selected flow hm =>
      refine ⟨selected, flow, hm, ?_⟩
      intro conn' hinput
      simp only [hinput] at h
      split at h <;> simp_all

lemma routePacketConnection_handed {conn conn' : PacketConn} {packets : List PacketBuffer}
    (h : routePacketConnection env metadata conn = .handed target (packets, conn')) :
    (metadata.inboundType == "tun" && metadata.protocol == "dns") ∧ packets = [] ∧ conn' = conn ∨
    (metadata.inboundType == "tun" && metadata.protocol == "dns") = false ∧
    ∃ selected flow, matchRule env { metadata with network := "udp" } false false (.packet conn) =
    some (selected, flow) ∧
    ∀ conn'', flow.input = .packet conn'' → packets = flow.packetBuffers ∧ conn' = conn'' := by
  unfold routePacketConnection at h
  dsimp only at h
  split at h
  next htun =>
    left
    injection h with _ hpair
    injection hpair with hpkts hconn
    exact ⟨htun, hpkts.symm, hconn.symm⟩
  next htun =>
    refine .inr ⟨Bool.eq_false_iff.2 htun, ?_⟩
    split at h
    · simp at h
    next selected flow hm =>
      refine ⟨selected, flow, hm, ?_⟩
      intro conn'' hinput
      simp only [hinput] at h
      split at h <;> simp_all

/-- The receiver first sees what was delivered, on a stream if the search is clean, and on packets
exactly then. -/
theorem handed_eq_delivered (env : RouteEnv) (metadata : InboundContext) :
    (∀ (reads : List StreamRead) (target : Target) (cached : CachedConn),
      cleanRouting env { metadata with network := "tcp" } (.stream { reads }) = true →
      routeConnection env metadata { reads } = .handed target cached →
        cached.pending = cached.delivered) ∧
    ∀ (reads : List PacketRead) (target : Target) (packets : List PacketBuffer) (conn : PacketConn),
      routePacketConnection env metadata { reads } = .handed target (packets, conn) →
        (packets = conn.delivered ↔
          cleanRouting env { metadata with network := "udp" } (.packet { reads }) = true) := by
  constructor
  · intro reads target cached hclean hrouted
    rcases routeConnection_handed hrouted with rfl | ⟨htun, selected, flow, hm, hca⟩
    · rfl
    · unfold matchRule at hm
      unfold cleanRouting at hclean
      rw [if_neg (by simpa using htun)] at hclean
      cases hprepared : preparedMetadata env { metadata with network := "tcp" } with
      | none => simp [hprepared] at hm
      | some prepared =>
        simp only [hprepared] at hm hclean
        have hst : Flow.StreamExact { metadata := prepared, input := .stream { reads } } :=
          ⟨{ reads }, rfl, rfl, Nat.zero_le 1⟩
        obtain ⟨conn, hinput, hpend⟩ := (hst.matchRules hclean hm).pending_eq
        rw [hca conn hinput]
        exact hpend
  · intro reads target packets conn hrouted
    unfold cleanRouting
    rcases routePacketConnection_handed hrouted with
      ⟨htun, rfl, rfl⟩ | ⟨htun, selected, flow, hm, hhanded⟩
    · rw [if_pos htun]
      simp
    · rw [if_neg (by simpa using htun)]
      unfold matchRule at hm
      cases hprepared : preparedMetadata env { metadata with network := "udp" } with
      | none => simp [hprepared] at hm
      | some prepared =>
        simp only [hprepared] at hm ⊢
        have hst : Flow.PacketState true { metadata := prepared, input := .packet { reads } } :=
          ⟨{ reads }, rfl, rfl⟩
        obtain ⟨conn', hinput, hstate⟩ := hst.matchRules hm
        obtain ⟨rfl, rfl⟩ := hhanded conn' hinput
        rw [Bool.true_and] at hstate
        cases hclean : cleanSearch env env.rules
            { metadata := prepared, input := .packet { reads } } with
        | true => simpa [hclean] using hstate
        | false =>
          have hlt : conn.delivered.length < flow.packetBuffers.length := by
            simpa [hclean] using hstate
          simp only [Bool.false_eq_true, iff_false]
          intro heq
          rw [heq] at hlt
          exact lt_irrefl _ hlt

def sniffingRouter (actions : List SniffAction) : RouteEnv where
  streamSniffers := []
  packetSniffers := []
  quicClientHello metadata _ := (metadata, [.needMoreData])
  isDomainName _ := false
  rules := actions.map fun action => ⟨.default {} none, .sniff action⟩
  prepare := some
  lookup _ _ := none
  outbound _ := none
  defaultOutbound := "direct"
  defaultNetworks := ["tcp", "udp"]

/-- The first action reads twice and fails; the second one finds nothing more to read. -/
theorem handed_eq_delivered_two_sniffs :
    (cached (.client { reads := [], delivered := [71, 69] }) [71, 69]).pending =
      [71, 69] :=
  (handed_eq_delivered
    (sniffingRouter [
      { snifferNames := ["tls"]
        streamSniffers := [fun metadata buffers => (metadata,
          if buffers.flatten.length < 2 then [.needMoreData]
          else [.sniffer "not a client hello"])] },
      { snifferNames := ["http"]
        streamSniffers := [fun metadata _ => (metadata, [.sniffer "not a request"])] }]) {}).1
    [.ok [71], .ok [69]] (.outbound "direct") _ (by decide) rfl

/-- The second segment is seen first; a packet is seen twice. -/
theorem handed_reordered_and_repeated :
    (∃ (env : RouteEnv) (reads : List StreamRead) (cached : CachedConn),
      routeConnection env {} { reads } = .handed (.outbound "direct") cached ∧
        cached.delivered = [65, 66] ∧ cached.pending = [66, 65]) ∧
    ∃ (env : RouteEnv) (reads : List PacketRead) (packet : PacketBuffer)
        (packets : List PacketBuffer) (conn : PacketConn),
      routePacketConnection env {} { reads } = .handed (.outbound "direct") (packets, conn) ∧
        conn.delivered = [packet] ∧ packets = [packet, packet] := by
  constructor
  · refine ⟨sniffingRouter [
      { snifferNames := ["tls"]
        streamSniffers := [fun metadata _ => (metadata, [.sniffer "not a client hello"])] },
      { snifferNames := ["http"]
        streamSniffers := [fun metadata _ => (metadata, [.sniffer "not a request"])] }],
      [.ok [65], .ok [66]], _, rfl, rfl, rfl⟩
  · refine ⟨sniffingRouter [
      { snifferNames := ["quic"]
        packetSniffers := [fun metadata _ => (metadata, [.needMoreData])] },
      { snifferNames := ["quic"]
        packetSniffers := [fun metadata _ => (metadata, [.needMoreData])] }],
      [.packet ⟨[1], {}⟩, .timeout, .timeout], ⟨[1], {}⟩, _, _, rfl, rfl, rfl⟩

end SingBox
