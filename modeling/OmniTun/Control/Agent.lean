import OmniTun.Control.Establish
import OmniTun.Foundation.Numerals
import OmniTun.Foundation.Table
import OmniTun.Foundation.Transition

/-! The agent's tables of its tunnels, and the failover of all of them to another relay. -/

namespace OmniTun.Control

open OmniTun.Foundation Numerals Transport Transition

structure AgentTunnel (κ σ : Type) where
  relayAddr : Bytes
  closed : Bool := false
  conn : TunnelConnection κ σ

structure TunnelInfo where
  tunnelID : Bytes
  relayAddress : Bytes
  tunnelToken : Bytes
  deriving DecidableEq

structure AlternativeRelayResponse where
  relayID : Bytes
  hostname : Bytes
  port : ℤ
  deriving DecidableEq

def AlternativeRelayResponse.address (r : AlternativeRelayResponse) : Bytes :=
  r.hostname ++ ascii ":" ++ intNumeral r.port

structure Agent (κ σ : Type) where
  relayID : Bytes
  apiClient : Bool
  tunnelConns : Table Bytes (AgentTunnel κ σ)
  tunnelInfos : Table Bytes TunnelInfo
  failoverCount : ℕ

def newAgent (κ σ : Type) (relayID : Bytes) (apiClient : Bool) : Agent κ σ :=
  ⟨relayID, apiClient, ∅, ∅, 0⟩

def maxAttempts : ℕ := 5

inductive FailoverError
  | exceededMaxAttempts
  | noAPIClient
  | getAlternativeRelay (err : Bytes)
  | allFailed (failed : ℕ)
  deriving DecidableEq

def FailoverError.error : FailoverError → Bytes
  | .exceededMaxAttempts => ascii "relay failover: exceeded max attempts (" ++ natNumeral maxAttempts ++
      ascii ")"
  | .noAPIClient => ascii "relay failover: no API client configured"
  | .getAlternativeRelay err => ascii "relay failover: get alternative relay: " ++ err
  | .allFailed failed => ascii "relay failover: all " ++ natNumeral failed ++
      ascii " tunnels failed to re-establish"

/-- What one call of `Establish` meets: what dialing gives, what happens on the connections between
the agent's frame and its wait, and whether the context ends first. -/
structure Attempt (κ σ : Type) where
  quic : Option κ
  ws : Option σ
  network : Option κ × Option σ → Option κ × Option σ
  ctxDone : Bool

def Attempt.transport {κ σ : Type} (attempt : Attempt κ σ) (tc : TunnelConnection κ σ) :
    TunnelConnection κ σ :=
  let conns := attempt.network (tc.quicConn, tc.wsConn)
  { tc with quicConn := conns.1, wsConn := conns.2 }

structure Failover (κ σ : Type) where
  alternative : Except Bytes AlternativeRelayResponse
  order : Table.RangeOrder Bytes
  attempt : Bytes → Attempt κ σ

namespace AgentTunnel

variable {κ σ : Type} [Reader κ] [Writer κ] [MessageConn σ]

def close (tc : AgentTunnel κ σ) : AgentTunnel κ σ :=
  if tc.closed then tc else { tc with closed := true, conn := tc.conn.closeTransport }

def reestablish (relayAddr token : Bytes) (attempt : Attempt κ σ) (tc : AgentTunnel κ σ) :
    Option EstablishError × AgentTunnel κ σ :=
  let conn := ({ tc.conn with token := token } : TunnelConnection κ σ).closeTransport
  let r := conn.establish relayAddr attempt.quic attempt.ws attempt.transport attempt.ctxDone
  (r.1, { tc with relayAddr := relayAddr, conn := r.2 })

end AgentTunnel

structure Progress (κ σ : Type) where
  conns : Table Bytes (AgentTunnel κ σ)
  reestablished : ℕ
  failed : ℕ

namespace Agent

variable {κ σ : Type} [Reader κ] [Writer κ] [MessageConn σ] (a : Agent κ σ)

def setTunnelConnection (tc : AgentTunnel κ σ) : Agent κ σ :=
  { a with
    tunnelConns := a.tunnelConns.insert tc.conn.tunnelID tc
    tunnelInfos := a.tunnelInfos.insert tc.conn.tunnelID
      ⟨tc.conn.tunnelID, tc.relayAddr, tc.conn.token⟩ }

def removeTunnelConnection (tunnelID : Bytes) : Agent κ σ :=
  { a with
    tunnelConns := a.tunnelConns.erase tunnelID
    tunnelInfos := a.tunnelInfos.erase tunnelID }

def handleTunnelStartAck (tunnelID relayAddress tunnelToken : Bytes) : Agent κ σ :=
  { a with
    tunnelInfos := a.tunnelInfos.insert tunnelID ⟨tunnelID, relayAddress, tunnelToken⟩ }

def handleTunnelStopCmd (tunnelID : Bytes) : Agent κ σ :=
  { a with
    tunnelConns :=
      match a.tunnelConns.lookup tunnelID with
      | none => a.tunnelConns
      | some tc => a.tunnelConns.insert tunnelID tc.close
    tunnelInfos := a.tunnelInfos.erase tunnelID }

def getTunnelInfo (tunnelID : Bytes) : Option TunnelInfo := a.tunnelInfos.lookup tunnelID

def reestablishOne (relayAddr token : Bytes) (attempt : Bytes → Attempt κ σ) (p : Progress κ σ)
    (e : Bytes × AgentTunnel κ σ) : Progress κ σ :=
  match e.2.reestablish relayAddr token (attempt e.1) with
  | (some _, tc) => { p with conns := p.conns.insert e.1 tc, failed := p.failed + 1 }
  | (none, tc) => { p with conns := p.conns.insert e.1 tc, reestablished := p.reestablished + 1 }

def reestablishAll (relayAddr token : Bytes) (f : Failover κ σ) : Progress κ σ :=
  (f.order.entries a.tunnelConns).foldl (reestablishOne relayAddr token f.attempt)
    ⟨a.tunnelConns, 0, 0⟩

def alternative (f : Failover κ σ) : Except FailoverError AlternativeRelayResponse :=
  if maxAttempts < a.failoverCount + 1 then .error .exceededMaxAttempts
  else if a.apiClient = false then .error .noAPIClient
  else f.alternative.mapError .getAlternativeRelay

def dialed (f : Failover κ σ) : List (Bytes × Bytes) :=
  match a.alternative f with
  | .error _ => []
  | .ok resp => (f.order.entries a.tunnelConns).map fun e => (e.1, resp.address)

def onRelayFailed (f : Failover κ σ) : Option FailoverError × Agent κ σ :=
  let counted := { a with failoverCount := a.failoverCount + 1 }
  match a.alternative f with
  | .error err => (some err, counted)
  | .ok resp =>
    -- the answer has no token for the relay
    let p := a.reestablishAll resp.address [] f
    (if p.reestablished = 0 ∧ 0 < p.failed then some (.allFailed p.failed) else none,
      { counted with relayID := resp.relayID, tunnelConns := p.conns })

end Agent

namespace TunnelConnection

variable {κ σ : Type} [MessageConn σ] {tc : TunnelConnection κ σ}

lemma sendConnectFrame_token [Writer κ] : tc.sendConnectFrame.2.token = tc.token := by
  simp only [sendConnectFrame, writeFrame]
  split <;> rfl

lemma waitConnectAck_token [Reader κ] (ctxDone : Bool) : (tc.waitConnectAck ctxDone).2.token = tc.token := by
  have hread : tc.readFrame.2.token = tc.token := by
    simp only [readFrame]
    split <;> rfl
  simp only [waitConnectAck]
  cases ctxDone with
  | true => rfl
  | false =>
    simp only [Bool.false_eq_true, if_false]
    split
    next err tc' h => exact (congrArg (fun r => r.2.token) h).symm.trans hread
    next frame tc' h =>
      have ht : tc'.token = tc.token := (congrArg (fun r => r.2.token) h).symm.trans hread
      split_ifs <;> exact ht

lemma establish_token [Reader κ] [Writer κ] (relayAddr : Bytes) (attempt : Attempt κ σ) :
    (tc.establish relayAddr attempt.quic attempt.ws attempt.transport attempt.ctxDone).2.token =
      tc.token := by
  simp only [establish]
  split_ifs
  · rfl
  · split
    · rfl
    · split
      next err tc' h => exact (congrArg (fun r => r.2.token) h).symm.trans sendConnectFrame_token
      next tc' h =>
        have hsend : tc'.token = tc.token :=
          (congrArg (fun r => r.2.token) h).symm.trans sendConnectFrame_token
        have hwait : ((attempt.transport tc').waitConnectAck attempt.ctxDone).2.token = tc.token :=
          (waitConnectAck_token _).trans hsend
        split
        next err tc'' h' => exact (congrArg (fun r => r.2.token) h').symm.trans hwait
        next tc'' h' => exact (congrArg (fun r => r.2.token) h').symm.trans hwait

end TunnelConnection

section Loop

variable {κ σ : Type} [Reader κ] [Writer κ] [MessageConn σ] {a : Agent κ σ} {f : Failover κ σ}
  {relayAddr token : Bytes}

lemma reestablish_bound (relayAddr token : Bytes) (attempt : Attempt κ σ) (tc : AgentTunnel κ σ) :
    (tc.reestablish relayAddr token attempt).2.relayAddr = relayAddr ∧
      (tc.reestablish relayAddr token attempt).2.conn.token = token :=
  ⟨rfl, TunnelConnection.establish_token relayAddr attempt⟩

lemma foldl_reestablishOne_conns (attempt : Bytes → Attempt κ σ)
    (es : List (Bytes × AgentTunnel κ σ)) (p : Progress κ σ) :
    (es.foldl (Agent.reestablishOne relayAddr token attempt) p).conns =
      (es.map fun e => some (e.1, (e.2.reestablish relayAddr token (attempt e.1)).2)).foldl
        Table.write p.conns := by
  induction es generalizing p with
  | nil => rfl
  | cons e es ih =>
    have hone : (Agent.reestablishOne relayAddr token attempt p e).conns =
        p.conns.insert e.1 (e.2.reestablish relayAddr token (attempt e.1)).2 := by
      simp only [Agent.reestablishOne]
      split
      next err tc h => rw [h]
      next tc h => rw [h]
    rw [List.foldl_cons, ih, hone]
    rfl

lemma reestablishAll_lookup (t : Bytes) :
    (a.reestablishAll relayAddr token f).conns.lookup t =
      (a.tunnelConns.lookup t).map fun tc => (tc.reestablish relayAddr token (f.attempt t)).2 := by
  rw [Agent.reestablishAll, foldl_reestablishOne_conns, Table.lookup_foldl_write]
  cases hl : a.tunnelConns.lookup t with
  | none =>
    rw [Option.or_none]
    apply Option.eq_none_iff_forall_ne_some.mpr
    intro v hv
    obtain ⟨e, he, heq⟩ := List.mem_map.mp (Table.lastWritten_mem hv)
    obtain ⟨rfl, -⟩ := Prod.mk.inj (Option.some.inj heq)
    have hlookup := (f.order.mem_entries a.tunnelConns e.1 e.2).mp he
    rw [hl] at hlookup
    cases hlookup
  | some tc =>
    have hmem : some (t, (tc.reestablish relayAddr token (f.attempt t)).2) ∈
        (f.order.entries a.tunnelConns).map fun e =>
          some (e.1, (e.2.reestablish relayAddr token (f.attempt e.1)).2) :=
      List.mem_map.mpr ⟨(t, tc), (f.order.mem_entries a.tunnelConns t tc).mpr hl, rfl⟩
    obtain ⟨v, hv⟩ := Table.lastWritten_isSome hmem
    obtain ⟨e, he, heq⟩ := List.mem_map.mp (Table.lastWritten_mem hv)
    obtain ⟨rfl, rfl⟩ := Prod.mk.inj (Option.some.inj heq)
    have hlookup := (f.order.mem_entries a.tunnelConns e.1 e.2).mp he
    rw [hl] at hlookup
    rw [hv, Option.some.inj hlookup]
    rfl

end Loop

/-! The tables over a history of the agent. -/

namespace AgentTables

structure Dial where
  tunnelID : Bytes
  relayAddr : Bytes
  afterStop : Bool
  deriving DecidableEq

/-- `stopped` are the tunnels that were stopped since they last were set, and `failedInARow` is the
number of failovers since the last one that succeeded. -/
structure History (κ σ : Type) where
  agent : Agent κ σ
  stopped : List Bytes
  dials : List Dial
  failedInARow : ℕ

inductive Op (κ σ : Type)
  | set (tc : AgentTunnel κ σ)
  | ack (tunnelID relayAddress tunnelToken : Bytes)
  | stop (tunnelID : Bytes)
  | remove (tunnelID : Bytes)
  | relayFailed (f : Failover κ σ)

variable {κ σ : Type} [Reader κ] [Writer κ] [MessageConn σ]

def start (relayID : Bytes) (apiClient : Bool) : History κ σ :=
  ⟨newAgent κ σ relayID apiClient, [], [], 0⟩

def History.apply (h : History κ σ) : Op κ σ → History κ σ
  | .set tc =>
    { h with
      agent := h.agent.setTunnelConnection tc
      stopped := h.stopped.filter (· ≠ tc.conn.tunnelID) }
  | .ack tunnelID relayAddress tunnelToken =>
    { h with agent := h.agent.handleTunnelStartAck tunnelID relayAddress tunnelToken }
  | .stop tunnelID =>
    { h with agent := h.agent.handleTunnelStopCmd tunnelID, stopped := tunnelID :: h.stopped }
  | .remove tunnelID => { h with agent := h.agent.removeTunnelConnection tunnelID }
  | .relayFailed f =>
    { h with
      agent := (h.agent.onRelayFailed f).2
      dials := h.dials ++ (h.agent.dialed f).map fun d => ⟨d.1, d.2, h.stopped.contains d.1⟩
      failedInARow := if (h.agent.onRelayFailed f).1.isSome then h.failedInARow + 1 else 0 }

def step (h : History κ σ) (op : Op κ σ) : Option (History κ σ) := some (h.apply op)

structure TablesAgree (h : History κ σ) : Prop where
  dials : ∀ d ∈ h.dials, d.afterStop = false
  infos : ∀ t tc info, h.agent.tunnelConns.lookup t = some tc →
    h.agent.getTunnelInfo t = some info →
      info.relayAddress = tc.relayAddr ∧ info.tunnelToken = tc.conn.token

/-- An acknowledgement repeats what the connection uses; and a failover that finds a relay finds no
tunnel that was stopped, and of none an entry but for that relay, without a token. -/
def Steady (h : History κ σ) : Op κ σ → Prop
  | .ack tunnelID relayAddress tunnelToken => ∀ tc, h.agent.tunnelConns.lookup tunnelID = some tc →
      relayAddress = tc.relayAddr ∧ tunnelToken = tc.conn.token
  | .relayFailed f => ∀ resp, h.agent.alternative f = .ok resp →
      ∀ t tc, h.agent.tunnelConns.lookup t = some tc → t ∉ h.stopped ∧
        ∀ info, h.agent.getTunnelInfo t = some info →
          info.relayAddress = resp.address ∧ info.tunnelToken = []
  | _ => True

variable {h : History κ σ} {f : Failover κ σ}

lemma onRelayFailed_error {err : FailoverError} (he : h.agent.alternative f = .error err) :
    (h.apply (.relayFailed f)).agent =
        { h.agent with failoverCount := h.agent.failoverCount + 1 } ∧
      (h.apply (.relayFailed f)).dials = h.dials := by
  simp [History.apply, Agent.onRelayFailed, Agent.dialed, he]

lemma onRelayFailed_ok {resp : AlternativeRelayResponse}
    (ho : h.agent.alternative f = .ok resp) :
    (h.apply (.relayFailed f)).agent.tunnelConns =
        (h.agent.reestablishAll resp.address [] f).conns ∧
      (h.apply (.relayFailed f)).agent.tunnelInfos = h.agent.tunnelInfos ∧
      (h.apply (.relayFailed f)).dials = h.dials ++
        (f.order.entries h.agent.tunnelConns).map fun e =>
          ⟨e.1, resp.address, h.stopped.contains e.1⟩ := by
  simp [History.apply, Agent.onRelayFailed, Agent.dialed, ho, Function.comp_def]

lemma lookup_relayFailed {resp : AlternativeRelayResponse} {t : Bytes} {tc : AgentTunnel κ σ}
    (ho : h.agent.alternative f = .ok resp) (hl : h.agent.tunnelConns.lookup t = some tc) :
    ∃ tc', (h.apply (.relayFailed f)).agent.tunnelConns.lookup t = some tc' ∧
      tc'.relayAddr = resp.address ∧ tc'.conn.token = [] := by
  refine ⟨_, ?_, reestablish_bound resp.address [] (f.attempt t) tc⟩
  rw [(onRelayFailed_ok ho).1, reestablishAll_lookup, hl]
  rfl

lemma tablesAgree_relayFailed (hk : TablesAgree h) :
    TablesAgree (h.apply (.relayFailed f)) ↔ Steady h (.relayFailed f) := by
  cases halt : h.agent.alternative f with
  | error err =>
    obtain ⟨hagent, hdials⟩ := onRelayFailed_error halt
    refine iff_of_true ⟨hdials ▸ hk.dials, ?_⟩ (by simp [Steady, halt])
    rw [hagent]
    exact hk.infos
  | ok resp =>
    obtain ⟨hconns, hinfos, hdials⟩ := onRelayFailed_ok halt
    constructor
    · intro hk' resp' hr t tc hl
      obtain rfl : resp = resp' := Except.ok.inj (halt.symm.trans hr)
      constructor
      · intro hstopped
        have hmem : (⟨t, resp.address, true⟩ : Dial) ∈ (h.apply (.relayFailed f)).dials := by
          rw [hdials]
          apply List.mem_append_right
          apply List.mem_map.mpr
          exact ⟨(t, tc), (f.order.mem_entries _ t tc).mpr hl, by simp [hstopped]⟩
        cases hk'.dials _ hmem
      · intro info hi
        obtain ⟨tc', hl', haddr, htoken⟩ := lookup_relayFailed halt hl
        have hagree := hk'.infos t tc' info hl' (by rw [Agent.getTunnelInfo, hinfos]; exact hi)
        rw [haddr, htoken] at hagree
        exact hagree
    · intro hs
      constructor
      · intro d hd
        rw [hdials] at hd
        rcases List.mem_append.mp hd with hd | hd
        · exact hk.dials d hd
        · obtain ⟨e, he, rfl⟩ := List.mem_map.mp hd
          have hl := (f.order.mem_entries _ e.1 e.2).mp he
          simpa using (hs resp halt e.1 e.2 hl).1
      · intro t tc' info hl' hi
        rw [Agent.getTunnelInfo, hinfos] at hi
        have hmap := hl'
        rw [hconns, reestablishAll_lookup] at hmap
        obtain ⟨tc, hl, -⟩ := Option.map_eq_some_iff.mp hmap
        obtain ⟨tc'', hl'', haddr, htoken⟩ := lookup_relayFailed halt hl
        obtain rfl : tc' = tc'' := Option.some.inj (hl'.symm.trans hl'')
        rw [haddr, htoken]
        exact (hs resp halt t tc hl).2 info hi

lemma tablesAgree_apply (op : Op κ σ) (hk : TablesAgree h) :
    TablesAgree (h.apply op) ↔ Steady h op := by
  cases op with
  | set tc =>
    refine iff_of_true ⟨hk.dials, fun t tc' info hl hi => ?_⟩ trivial
    simp only [History.apply, Agent.setTunnelConnection, Agent.getTunnelInfo,
      Table.lookup_insert] at hl hi
    split_ifs at hl hi
    · obtain rfl := Option.some.inj hl
      obtain rfl := Option.some.inj hi
      exact ⟨rfl, rfl⟩
    · exact hk.infos t tc' info hl hi
  | ack tunnelID relayAddress tunnelToken =>
    constructor
    · intro hk' tc hl
      exact hk'.infos tunnelID tc _ hl (Finmap.lookup_insert _)
    · intro hs
      refine ⟨hk.dials, fun t tc info hl hi => ?_⟩
      simp only [History.apply, Agent.handleTunnelStartAck, Agent.getTunnelInfo,
        Table.lookup_insert] at hl hi
      split_ifs at hi with ht
      · obtain rfl := Option.some.inj hi
        exact hs tc (ht ▸ hl)
      · exact hk.infos t tc info hl hi
  | stop tunnelID =>
    refine iff_of_true ⟨hk.dials, fun t tc' info hl hi => ?_⟩ trivial
    simp only [History.apply, Agent.handleTunnelStopCmd, Agent.getTunnelInfo,
      Table.lookup_erase] at hl hi
    split_ifs at hi with ht
    have hl' : h.agent.tunnelConns.lookup t = some tc' := by
      cases hc : h.agent.tunnelConns.lookup tunnelID with
      | none => simpa [hc] using hl
      | some tc => simpa [hc, Table.lookup_insert, ht] using hl
    exact hk.infos t tc' info hl' hi
  | remove tunnelID =>
    refine iff_of_true ⟨hk.dials, fun t tc' info hl hi => ?_⟩ trivial
    simp only [History.apply, Agent.removeTunnelConnection, Agent.getTunnelInfo,
      Table.lookup_erase] at hl hi
    split_ifs at hl hi
    exact hk.infos t tc' info hl hi
  | relayFailed f => exact tablesAgree_relayFailed hk

theorem tables_agree_iff (relayID : Bytes) (apiClient : Bool) (ops : List (Op κ σ)) :
    Always step TablesAgree (start relayID apiClient) ops ↔
      Guarded step Steady (start relayID apiClient) ops := by
  have hstart : TablesAgree (start (κ := κ) (σ := σ) relayID apiClient) :=
    ⟨by simp [start], by simp [start, newAgent]⟩
  apply always_iff_guarded_of_step hstart
  intro h op h' hk hs
  obtain rfl := Option.some.inj hs
  exact tablesAgree_apply op hk

def exampleTunnel : AgentTunnel Duplex (List Protocol.Frame) where
  relayAddr := ascii "r1.dev:7000"
  conn := ⟨ascii "T", ascii "token", none, none⟩

def exampleFailover : Failover Duplex (List Protocol.Frame) where
  alternative := .ok ⟨ascii "r2", ascii "r2.dev", 7000⟩
  order := .byCode
  attempt _ := ⟨none, none, id, false⟩

theorem tables_agree_fails :
    (∃ h, run step (start (ascii "r1") true)
        [.set exampleTunnel, .stop (ascii "T"), .relayFailed exampleFailover] = some h ∧
      ⟨ascii "T", ascii "r2.dev:7000", true⟩ ∈ h.dials ∧ ¬ TablesAgree h) ∧
    ∃ h tc, run step (start (ascii "r1") true) [.set exampleTunnel, .relayFailed exampleFailover] =
        some h ∧
      h.agent.tunnelConns.lookup (ascii "T") = some tc ∧ tc.relayAddr = ascii "r2.dev:7000" ∧
      tc.conn.token = [] ∧
      h.agent.getTunnelInfo (ascii "T") = some ⟨ascii "T", ascii "r1.dev:7000", ascii "token"⟩ := by
  let stopped := (start (ascii "r1") true).apply (.set exampleTunnel) |>.apply (.stop (ascii "T"))
  have hmem : ⟨ascii "T", ascii "r2.dev:7000", true⟩ ∈
      (stopped.apply (.relayFailed exampleFailover)).dials := by
    rw [(onRelayFailed_ok rfl).2.2]
    apply List.mem_map.mpr
    exact ⟨(ascii "T", exampleTunnel.close), (exampleFailover.order.mem_entries _ _ _).mpr rfl, rfl⟩
  refine ⟨⟨_, rfl, hmem, fun hk => absurd (hk.dials _ hmem) (by decide)⟩, ?_⟩
  have hset : ((start (ascii "r1") true).apply (.set exampleTunnel)).agent.tunnelConns.lookup
      (ascii "T") = some exampleTunnel := rfl
  obtain ⟨tc, hl, haddr, htoken⟩ := lookup_relayFailed (f := exampleFailover) rfl hset
  exact ⟨_, tc, rfl, hl, haddr, htoken, rfl⟩

end AgentTables

end OmniTun.Control
