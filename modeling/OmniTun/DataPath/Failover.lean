import OmniTun.Control.Agent
import OmniTun.DataPath.HandshakeAgreement

/-! Failovers of the agent to relays that it can reach and that validate tokens. -/

namespace OmniTun.DataPath.Failover

open OmniTun.Foundation Transport Transition OmniTun.Relay OmniTun.Control AgentTables
  HandshakeAgreement

variable {σ : Type} [MessageConn σ] (mac : Bytes → Bytes → Bytes)

/-- Dialing gives a connection to the relay `s`, which answers at the time `now`. -/
def reach (now : ℤ) (s : Server Duplex) : Attempt Duplex σ where
  quic := some dialed
  ws := none
  network conns := (conns.1.map fun conn =>
    conn.withInbound (conn.inbound ++ reply (relaySide mac now s conn)), conns.2)
  ctxDone := false

structure FailoverKept (h : History Duplex σ) (f : Failover Duplex σ) : Prop where
  tokens : ∀ resp t tc now s, h.agent.alternative f = .ok resp →
    h.agent.tunnelConns.lookup t = some tc → f.attempt t = reach mac now s →
      ∃ tc', (h.agent.onRelayFailed f).2.tunnelConns.lookup t = some tc' ∧
        s.tokenValidator.validate mac now tc'.conn.token = .ok t ∧ tc'.conn.quicConn.isSome
  limit : (h.agent.onRelayFailed f).1 = some .exceededMaxAttempts ↔ maxAttempts ≤ h.failedInARow

def Kept (h : History Duplex σ) : Op Duplex σ → Prop
  | .relayFailed f => FailoverKept mac h f
  | _ => True

/-- No tunnel goes to a relay that can be reached, and once there were five failovers the last five
have failed. -/
def Spared (h : History Duplex σ) : Op Duplex σ → Prop
  | .relayFailed f =>
    (∀ resp t tc now s, h.agent.alternative f = .ok resp →
      h.agent.tunnelConns.lookup t = some tc → f.attempt t ≠ reach mac now s) ∧
    (maxAttempts ≤ h.agent.failoverCount → maxAttempts ≤ h.failedInARow)
  | _ => True

section Calls

variable {mac} {h : History Duplex σ} {f : Failover Duplex σ}

lemma exceeded_iff (a : Agent Duplex σ) :
    (a.onRelayFailed f).1 = some .exceededMaxAttempts ↔ maxAttempts ≤ a.failoverCount := by
  simp only [Agent.onRelayFailed, Agent.alternative]
  split_ifs with hcount hclient
  · exact iff_of_true rfl (Nat.le_of_lt_succ hcount)
  · exact iff_of_false (by simp) (by omega)
  · refine iff_of_false ?_ (by omega)
    cases f.alternative with
    | error err => simp [Except.mapError]
    | ok resp =>
      simp only [Except.mapError]
      split_ifs <;> simp

lemma validate_empty (v : TokenValidator) (now : ℤ) :
    v.validate mac now [] = .error .emptyToken := rfl

lemma tokens_iff :
    (∀ resp t tc now s, h.agent.alternative f = .ok resp →
      h.agent.tunnelConns.lookup t = some tc → f.attempt t = reach mac now s →
        ∃ tc', (h.agent.onRelayFailed f).2.tunnelConns.lookup t = some tc' ∧
          s.tokenValidator.validate mac now tc'.conn.token = .ok t ∧ tc'.conn.quicConn.isSome) ↔
    ∀ resp t tc now s, h.agent.alternative f = .ok resp →
      h.agent.tunnelConns.lookup t = some tc → f.attempt t ≠ reach mac now s := by
  constructor
  · intro hk resp t tc now s ho hl hreach
    obtain ⟨tc', hl', hvalid, -⟩ := hk resp t tc now s ho hl hreach
    obtain ⟨tc'', hl'', -, htoken⟩ := lookup_relayFailed ho hl
    obtain rfl : tc' = tc'' := Option.some.inj (hl'.symm.trans hl'')
    rw [htoken, validate_empty] at hvalid
    cases hvalid
  · intro hs resp t tc now s ho hl hreach
    exact absurd hreach (hs resp t tc now s ho hl)

lemma kept_iff (hrow : h.failedInARow ≤ h.agent.failoverCount) (op : Op Duplex σ) :
    Kept mac h op ↔ Spared mac h op := by
  cases op with
  | relayFailed f =>
    constructor
    · rintro ⟨htokens, hlimit⟩
      exact ⟨tokens_iff.mp htokens, fun hc => hlimit.mp ((exceeded_iff h.agent).mpr hc)⟩
    · rintro ⟨hreach, hfive⟩
      refine ⟨tokens_iff.mpr hreach, (exceeded_iff h.agent).trans ⟨hfive, ?_⟩⟩
      exact fun hc => hc.trans hrow
  | _ => exact Iff.rfl

lemma failedInARow_le {h' : History Duplex σ} {op : Op Duplex σ}
    (hrow : h.failedInARow ≤ h.agent.failoverCount) (hs : step h op = some h') :
    h'.failedInARow ≤ h'.agent.failoverCount := by
  obtain rfl := Option.some.inj hs
  cases op with
  | relayFailed f =>
    have hcount : (h.agent.onRelayFailed f).2.failoverCount = h.agent.failoverCount + 1 := by
      simp only [Agent.onRelayFailed]
      split <;> rfl
    simp only [History.apply, hcount]
    split_ifs <;> omega
  | _ => exact hrow

omit [MessageConn σ] in
lemma reach_transport (now : ℤ) (s : Server Duplex) :
    (reach (σ := σ) mac now s).transport = deliver mac now s := by
  funext tc
  rcases tc with ⟨tunnelID, token, _ | conn, wsConn⟩ <;> rfl

variable (mac) in
omit [MessageConn σ] in
lemma authorize_empty (v : TokenValidator) (now : ℤ) {tc : TunnelConnection Duplex σ}
    (htoken : tc.token = []) (hid : newline ∉ tc.tunnelID) :
    ∃ message, authorize mac v now tc.connectFrame = .error message := by
  have hparse : parseTunnelConnectPayload tc.connectFrame.payload = .ok (tc.tunnelID, []) :=
    htoken ▸ parse_connectPayload hid
  simp only [authorize, hparse, validate_empty]
  split_ifs
  · exact ⟨_, rfl⟩
  · exact ⟨_, rfl⟩

lemma reestablish_refused {relayAddr : Bytes} {now : ℤ} {s : Server Duplex} {tc : AgentTunnel Duplex σ}
    (haddr : relayAddr ≠ []) (hid : newline ∉ tc.conn.tunnelID)
    (hfit : tc.conn.tunnelID.length + 1 < Protocol.maxPayload) :
    (tc.reestablish relayAddr [] (reach mac now s)).2.conn.quicConn = none := by
  let conn := ({ tc.conn with token := [] } : TunnelConnection Duplex σ).closeTransport
  have hpayload : conn.connectPayload.length ≤ Protocol.maxPayload := by
    simpa [TunnelConnection.connectPayload, conn, ascii, TunnelConnection.closeTransport] using hfit
  have htoken : conn.token = [] := rfl
  obtain ⟨message, hauth⟩ := authorize_empty mac s.tokenValidator now htoken hid
  have hrelay : relaySide mac now s (dialed.sent conn.connectFrame.wireBytes) =
      s.reject dialed message := by
    rw [relaySide_eq hpayload, hauth]
  obtain ⟨-, -, err, -, hagent⟩ := agentSide_of_reject haddr hpayload (authorize_error hauth) hrelay
  have hconn : (tc.reestablish relayAddr [] (reach mac now s)).2.conn =
      (agentSide mac now s relayAddr conn).2 := by
    simp only [AgentTunnel.reestablish, reach_transport]
    rfl
  rw [hconn, hagent]

end Calls

theorem failover_kept_iff (relayID : Bytes) (apiClient : Bool) (ops : List (Op Duplex σ)) :
    Guarded step (Kept mac) (start relayID apiClient) ops ↔
      Guarded step (Spared mac) (start relayID apiClient) ops := by
  have hstart : (start (κ := Duplex) (σ := σ) relayID apiClient).failedInARow ≤
      (start (κ := Duplex) (σ := σ) relayID apiClient).agent.failoverCount := le_rfl
  apply guarded_congr_of_invariant (P := fun h => h.failedInARow ≤ h.agent.failoverCount) hstart
  intro h op h' hrow hs
  exact ⟨failedInARow_le hrow hs, kept_iff hrow op⟩

section Examples

def exampleTunnel : AgentTunnel Duplex (List Protocol.Frame) where
  relayAddr := ascii "r1.dev:7000"
  conn := HandshakeAgreement.exampleAgent

def exampleFailover : Failover Duplex (List Protocol.Frame) where
  alternative := .ok ⟨ascii "r2", ascii "r2.dev", 7000⟩
  order := .byCode
  attempt _ := reach zeroMac 0 exampleRelay

lemma onRelayFailed_idle {a : Agent Duplex (List Protocol.Frame)} (hconns : a.tunnelConns = ∅)
    (hclient : a.apiClient = true) (hcount : a.failoverCount < maxAttempts) :
    a.onRelayFailed exampleFailover =
      (none, { a with failoverCount := a.failoverCount + 1, relayID := ascii "r2" }) := by
  have halt : a.alternative exampleFailover = .ok ⟨ascii "r2", ascii "r2.dev", 7000⟩ := by
    simp only [Agent.alternative, hclient]
    rw [if_neg (by omega)]
    rfl
  have hentries : exampleFailover.order.entries a.tunnelConns = [] := by
    rw [hconns]
    exact exampleFailover.order.entries_empty
  simp only [Agent.onRelayFailed, halt, Agent.reestablishAll, hentries, List.foldl_nil]
  rfl

lemma run_idle (n : ℕ) (hn : n ≤ maxAttempts) :
    ∃ h, run step (start (ascii "r1") true) (List.replicate n (.relayFailed exampleFailover)) = some h ∧
      h.agent.tunnelConns = ∅ ∧ h.agent.apiClient = true ∧ h.agent.failoverCount = n ∧
      h.failedInARow = 0 := by
  induction n with
  | zero => exact ⟨_, rfl, rfl, rfl, rfl, rfl⟩
  | succ n ih =>
    obtain ⟨h, hrun, hconns, hclient, hcount, hrow⟩ := ih (by omega)
    have hidle := onRelayFailed_idle hconns hclient (by omega)
    refine ⟨h.apply (.relayFailed exampleFailover), ?_, ?_, ?_, ?_, ?_⟩
    · rw [List.replicate_succ', run_concat, hrun]
      rfl
    all_goals simp only [History.apply, hidle]
    · exact hconns
    · exact hclient
    · rw [hcount]
    · rfl

theorem failover_kept_fails :
    exampleRelay.tokenValidator.validate zeroMac 0 exampleTunnel.conn.token = .ok (ascii "T") ∧
    (exampleTunnel.reestablish (ascii "r2.dev:7000") [] (reach zeroMac 0 exampleRelay)).2.conn.quicConn =
      none ∧
    ¬ Guarded step (Kept zeroMac) (start (ascii "r1") true)
      ([.set exampleTunnel] ++ [.relayFailed exampleFailover]) ∧
    ¬ Guarded step (Kept zeroMac) (start (ascii "r1") true)
      (List.replicate 5 (.relayFailed exampleFailover) ++ [.relayFailed exampleFailover]) := by
  refine ⟨by decide, reestablish_refused (by decide) (by decide) (by decide), fun hg => ?_, fun hg => ?_⟩
  · have hset : ((start (ascii "r1") true).apply (.set exampleTunnel)).agent.tunnelConns.lookup
        (ascii "T") = some exampleTunnel := rfl
    have hkept := Guarded.last hg rfl rfl
    exact tokens_iff.mp hkept.tokens _ _ _ _ _ rfl hset rfl
  · obtain ⟨h, hrun, -, -, hcount, hrow⟩ := run_idle 5 le_rfl
    have hkept := Guarded.last hg hrun rfl
    have hfive := hkept.limit.mp ((exceeded_iff h.agent).mpr (hcount ▸ le_rfl))
    rw [hrow] at hfive
    exact absurd hfive (by decide)

end Examples

end OmniTun.DataPath.Failover
