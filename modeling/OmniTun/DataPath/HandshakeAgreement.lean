import OmniTun.Control.Establish
import OmniTun.Relay.Handshake

/-! The agent's and the relay's side of the connection handshake, over a reliable connection. -/

namespace OmniTun.DataPath.HandshakeAgreement

open OmniTun.Foundation OmniTun.Foundation.Transport OmniTun.Protocol OmniTun.Relay OmniTun.Control

variable {σ : Type*}

section

variable (mac : Bytes → Bytes → Bytes) (now : ℤ) (s : Server Duplex)

def relaySide (conn : Duplex) : HandshakeResult Duplex × Server Duplex :=
  s.handleQUICConnection mac now (some ⟨conn.outbound, [], false⟩)

def reply (r : HandshakeResult Duplex × Server Duplex) : Bytes :=
  match r.1 with
  | .rejected _ stream => stream.outbound
  | .connected _ streamID => ((r.2.streamMux.getStream streamID).map fun sc => sc.conn.outbound).getD []
  | _ => []

def deliver (tc : TunnelConnection Duplex σ) : TunnelConnection Duplex σ :=
  match tc.quicConn with
  | none => tc
  | some conn =>
    { tc with
      quicConn := some (conn.withInbound (conn.inbound ++ reply (relaySide mac now s conn))) }

def dialed : Duplex := ⟨[], [], false⟩

def agentSide [MessageConn σ] (relayAddr : Bytes) (tc : TunnelConnection Duplex σ) :
    Option EstablishError × TunnelConnection Duplex σ :=
  tc.establish relayAddr (some dialed) none (deliver mac now s) false

end

inductive MuxOp
  | newStream (tunnelID : Bytes) (conn : Duplex)
  | closeStream (streamID : UInt64)
  | use (streamID : UInt64) (conn : Duplex)

def MuxOp.apply (sm : StreamMultiplexer Duplex) : MuxOp → StreamMultiplexer Duplex
  | .newStream tunnelID conn => (sm.newStream tunnelID conn).2
  | .closeStream streamID => (sm.closeStream streamID).2
  | .use streamID conn =>
    match sm.activeStreams.lookup streamID with
    | none => sm
    | some sc => sm.withConn streamID sc conn

def MuxOp.opens : MuxOp → Bool
  | .newStream _ _ => true
  | _ => false

def muxAfter (ops : List MuxOp) : StreamMultiplexer Duplex :=
  ops.foldl MuxOp.apply (newStreamMultiplexer Duplex)

section Fresh

structure Issued (sm : StreamMultiplexer Duplex) (opened : ℕ) : Prop where
  next : sm.nextStreamID.toNat = opened + 1
  below : ∀ id sc, sm.activeStreams.lookup id = some sc → id.toNat ≤ opened

variable {sm : StreamMultiplexer Duplex} {opened : ℕ}

lemma Issued.fresh (h : Issued sm opened) : sm.getStream sm.nextStreamID = none := by
  cases hl : sm.getStream sm.nextStreamID with
  | none => rfl
  | some sc =>
    have hle := h.below _ sc hl
    rw [h.next] at hle
    omega

lemma Issued.newStream (h : Issued sm opened) (hopen : opened + 1 < 2 ^ 64 - 1)
    (tunnelID : Bytes) (conn : Duplex) : Issued (sm.newStream tunnelID conn).2 (opened + 1) := by
  constructor
  · simp only [StreamMultiplexer.newStream, UInt64.toNat_add, h.next, UInt64.toNat_one]
    omega
  · intro id sc hid
    simp only [StreamMultiplexer.newStream, Table.lookup_insert] at hid
    split_ifs at hid with heq
    · rw [heq, h.next]
    · exact Nat.le_succ_of_le (h.below id sc hid)

lemma Issued.closeStream (h : Issued sm opened) (streamID : UInt64) :
    Issued (sm.closeStream streamID).2 opened := by
  cases hl : sm.activeStreams.lookup streamID with
  | none =>
    simp only [StreamMultiplexer.closeStream, hl]
    exact h
  | some sc =>
    simp only [StreamMultiplexer.closeStream, hl]
    refine ⟨h.next, fun id sc' hid => ?_⟩
    rw [Table.lookup_erase] at hid
    split_ifs at hid
    exact h.below id sc' hid

lemma Issued.use (h : Issued sm opened) (streamID : UInt64) (conn : Duplex) :
    Issued (MuxOp.apply sm (.use streamID conn)) opened := by
  cases hl : sm.activeStreams.lookup streamID with
  | none =>
    simp only [MuxOp.apply, hl]
    exact h
  | some sc =>
    simp only [MuxOp.apply, hl]
    refine ⟨h.next, fun id sc' hid => ?_⟩
    simp only [StreamMultiplexer.withConn, Table.lookup_insert] at hid
    split_ifs at hid with heq
    · exact heq ▸ h.below streamID sc hl
    · exact h.below id sc' hid

lemma issued_after (ops : List MuxOp) (hops : ops.countP MuxOp.opens < 2 ^ 64 - 1) :
    Issued (muxAfter ops) (ops.countP MuxOp.opens) := by
  induction ops using List.reverseRecOn with
  | nil => exact ⟨rfl, fun id sc hid => by simp [muxAfter, newStreamMultiplexer] at hid⟩
  | append_singleton ops op ih =>
    rw [List.countP_append] at hops ⊢
    have hih := ih (by omega)
    simp only [muxAfter, List.foldl_append, List.foldl_cons, List.foldl_nil]
    cases op with
    | newStream tunnelID conn => exact hih.newStream (by simpa [MuxOp.opens] using hops) tunnelID conn
    | closeStream streamID => exact hih.closeStream streamID
    | use streamID conn => exact hih.use streamID conn

end Fresh

lemma dialed_open : dialed.closed = false := rfl

section Relay

variable {mac : Bytes → Bytes → Bytes} {now : ℤ} {s : Server Duplex}
  {tc : TunnelConnection Duplex σ}

lemma connectFrame_wire (hfit : tc.connectPayload.length ≤ maxPayload) : tc.connectFrame.Wire :=
  ⟨rfl, hfit⟩

lemma tunnelID_lt (hfit : tc.connectPayload.length ≤ maxPayload) :
    tc.tunnelID.length < maxPayload := by
  simp only [TunnelConnection.connectPayload, List.length_cons, List.length_append] at hfit
  omega

lemma parse_connectPayload (hid : newline ∉ tc.tunnelID) :
    parseTunnelConnectPayload tc.connectPayload = .ok (tc.tunnelID, tc.token) := by
  have hlen : ¬ tc.connectPayload.length ≤ 1 := by
    simp [TunnelConnection.connectPayload, ascii]
  have hdata : tc.connectPayload.drop 1 = tc.tunnelID ++ newline :: tc.token := by
    simp [TunnelConnection.connectPayload, ascii, newline]
  simp only [parseTunnelConnectPayload, if_neg hlen, hdata, dropWhile_sep hid, takeWhile_sep hid]

lemma authorize_error {v : TokenValidator} {f : Frame} {message : Bytes}
    (h : authorize mac v now f = .error message) : message.length ≤ 64 := by
  simp only [authorize] at h
  split_ifs at h
  · exact Except.error.inj h ▸ by decide
  · cases hp : parseTunnelConnectPayload f.payload with
    | error err =>
      simp only [hp, Except.error.injEq] at h
      cases err <;> exact h ▸ by decide
    | ok p =>
      simp only [hp] at h
      cases hv : v.validate mac now p.2 with
      | error err =>
        simp only [hv, Except.error.injEq] at h
        cases err <;> exact h ▸ by decide
      | ok validatedID =>
        simp only [hv] at h
        split_ifs at h
        exact Except.error.inj h ▸ by decide

lemma authorize_ok {v : TokenValidator} {tunnelID : Bytes} (hid : newline ∉ tc.tunnelID)
    (h : authorize mac v now tc.connectFrame = .ok tunnelID) : tunnelID = tc.tunnelID := by
  have hp : parseTunnelConnectPayload tc.connectFrame.payload = .ok (tc.tunnelID, tc.token) :=
    parse_connectPayload hid
  simp only [authorize, hp] at h
  split_ifs at h
  cases hv : v.validate mac now tc.token with
  | error err => simp [hv] at h
  | ok validatedID =>
    simp only [hv] at h
    split_ifs at h
    exact (Except.ok.inj h).symm

lemma relaySide_eq (hfit : tc.connectPayload.length ≤ maxPayload) :
    relaySide mac now s (dialed.sent tc.connectFrame.wireBytes) =
      match authorize mac s.tokenValidator now tc.connectFrame with
      | .error message => s.reject dialed message
      | .ok tunnelID => s.connect dialed tunnelID := by
  have hdecode : decodeFrame (⟨tc.connectFrame.wireBytes, [], false⟩ : Duplex) =
      (.ok tc.connectFrame, dialed) := by
    rw [decodeFrame_duplex rfl, ← List.append_nil tc.connectFrame.wireBytes,
      decodeFrame_wireBytes (connectFrame_wire hfit)]
    rfl
  exact Server.handleQUICConnection_decoded hdecode

lemma reject_eq {message : Bytes} (hm : message.length ≤ 64) :
    s.reject dialed message =
      (.rejected message (dialed.sent (newErrorFrame errorAuthFailed message).wireBytes), s) := by
  have hfit : (newErrorFrame errorAuthFailed message).payload.length ≤ maxPayload := by
    simp only [newErrorFrame, List.length_cons, maxPayload]
    omega
  simp only [Server.reject, encodeFrame_duplex dialed_open hfit]

lemma connect_eq {tunnelID : Bytes} (hid : tunnelID ≠ []) (hfit : tunnelID.length < maxPayload) :
    ∃ s', s.connect dialed tunnelID = (.connected tunnelID s.streamMux.nextStreamID, s') ∧
      s'.streamMux.getStream s.streamMux.nextStreamID =
        some ⟨s.streamMux.nextStreamID, tunnelID,
          dialed.sent (ackFrame tunnelID s.streamMux.nextStreamID).wireBytes⟩ := by
  have hack : (ackFrame tunnelID s.streamMux.nextStreamID).payload.length ≤ maxPayload := by
    simp only [ackFrame, List.length_cons]
    omega
  simp only [Server.connect, Dispatcher.register, dif_neg hid, StreamMultiplexer.newStream,
    encodeFrame_duplex dialed_open hack]
  exact ⟨_, rfl, StreamMultiplexer.lookup_withConn _ _ _ _⟩

end Relay

section Agent

variable [MessageConn σ] {mac : Bytes → Bytes → Bytes} {now : ℤ} {s : Server Duplex}
  {tc : TunnelConnection Duplex σ} {relayAddr : Bytes}

lemma agentSide_eq (haddr : relayAddr ≠ []) (hfit : tc.connectPayload.length ≤ maxPayload)
    {f : Frame} (hf : f.Wire)
    (hreply : reply (relaySide mac now s (dialed.sent tc.connectFrame.wireBytes)) = f.wireBytes) :
    agentSide mac now s relayAddr tc =
      if f.type ≠ frameTypeControl ∨ f.controlSubType ≠ controlTunnelConnectAck then
        (some (.connectAck (.unexpectedFrame f.type f.controlSubType)),
          { tc with quicConn := none, wsConn := none })
      else
        (none, { tc with quicConn := some (dialed.sent tc.connectFrame.wireBytes) }) := by
  let sent : TunnelConnection Duplex σ :=
    { tc with quicConn := some (dialed.sent tc.connectFrame.wireBytes) }
  have hsend : ({ tc with quicConn := some dialed } : TunnelConnection Duplex σ).sendConnectFrame =
      (none, sent) :=
    TunnelConnection.writeFrame_duplex rfl rfl (connectFrame_wire hfit)
  have hdeliver : deliver mac now s sent =
      { tc with quicConn := some ((dialed.sent tc.connectFrame.wireBytes).withInbound f.wireBytes) } := by
    simp only [deliver, sent, hreply]
    rfl
  have hquic : (deliver mac now s sent).quicConn =
      some ((dialed.sent tc.connectFrame.wireBytes).withInbound f.wireBytes) := by
    rw [hdeliver]
  have hwait := TunnelConnection.waitConnectAck_duplex hquic rfl hf rfl
  simp only [agentSide, TunnelConnection.establish, if_neg haddr, Option.isSome_some, if_true, hsend,
    hwait]
  split_ifs with hack
  · rfl
  · simp only [hdeliver]
    rfl

lemma agentSide_of_reject {message : Bytes} (haddr : relayAddr ≠ [])
    (hfit : tc.connectPayload.length ≤ maxPayload) (hm : message.length ≤ 64)
    (h : relaySide mac now s (dialed.sent tc.connectFrame.wireBytes) = s.reject dialed message) :
    ∃ message stream err,
      relaySide mac now s (dialed.sent tc.connectFrame.wireBytes) = (.rejected message stream, s) ∧
      agentSide mac now s relayAddr tc = (some err, { tc with quicConn := none, wsConn := none }) := by
  rw [reject_eq hm] at h
  have hf : (newErrorFrame errorAuthFailed message).Wire := by
    refine ⟨rfl, ?_⟩
    simp only [newErrorFrame, List.length_cons, maxPayload]
    omega
  have hreply : reply (relaySide mac now s (dialed.sent tc.connectFrame.wireBytes)) =
      (newErrorFrame errorAuthFailed message).wireBytes := by
    rw [h]
    rfl
  exact ⟨message, _, _, h, agentSide_eq haddr hfit hf hreply⟩

lemma agentSide_of_connect {s' : Server Duplex} {sc : StreamConnection Duplex}
    (haddr : relayAddr ≠ []) (hfit : tc.connectPayload.length ≤ maxPayload)
    (hrelay : relaySide mac now s (dialed.sent tc.connectFrame.wireBytes) =
      (.connected tc.tunnelID s.streamMux.nextStreamID, s'))
    (hsc : s'.streamMux.getStream s.streamMux.nextStreamID = some sc)
    (hout : sc.conn.outbound = (ackFrame tc.tunnelID s.streamMux.nextStreamID).wireBytes) :
    (agentSide mac now s relayAddr tc).1 = none := by
  have hack : (ackFrame tc.tunnelID s.streamMux.nextStreamID).Wire := by
    have hlen := tunnelID_lt hfit
    refine ⟨rfl, ?_⟩
    simp only [ackFrame, List.length_cons]
    omega
  have hreply : reply (relaySide mac now s (dialed.sent tc.connectFrame.wireBytes)) =
      (ackFrame tc.tunnelID s.streamMux.nextStreamID).wireBytes := by
    simp only [reply, hrelay, hsc]
    exact hout
  rw [agentSide_eq haddr hfit hack hreply]
  rfl

end Agent

theorem handshake_agreement [MessageConn σ] (mac : Bytes → Bytes → Bytes) (now : ℤ)
    (s : Server Duplex) (relayAddr : Bytes) (tc : TunnelConnection Duplex σ)
    (haddr : relayAddr ≠ []) (hid : newline ∉ tc.tunnelID)
    (hfit : tc.connectPayload.length ≤ maxPayload) :
    parseTunnelConnectPayload tc.connectPayload = .ok (tc.tunnelID, tc.token) ∧
    ((∃ streamID s' sc,
        relaySide mac now s (dialed.sent tc.connectFrame.wireBytes) =
          (.connected tc.tunnelID streamID, s') ∧
        s'.dispatcher.tunnels.lookup tc.tunnelID =
          some { tunnelID := tc.tunnelID, streamID := streamID } ∧
        s'.streamMux.getStream streamID = some sc ∧ sc.tunnelID = tc.tunnelID ∧
        (∀ ops, s.streamMux = muxAfter ops → ops.countP MuxOp.opens < 2 ^ 64 - 1 →
          s.streamMux.getStream streamID = none) ∧
        sc.conn.outbound = (ackFrame tc.tunnelID streamID).wireBytes ∧
        (agentSide mac now s relayAddr tc).1 = none) ∨
      ∃ message stream err,
        relaySide mac now s (dialed.sent tc.connectFrame.wireBytes) =
          (.rejected message stream, s) ∧
        agentSide mac now s relayAddr tc =
          (some err, { tc with quicConn := none, wsConn := none })) := by
  refine ⟨parse_connectPayload hid, ?_⟩
  have hrelay : relaySide mac now s (dialed.sent tc.connectFrame.wireBytes) = _ := relaySide_eq hfit
  cases hauth : authorize mac s.tokenValidator now tc.connectFrame with
  | error message =>
    rw [hauth] at hrelay
    exact .inr (agentSide_of_reject haddr hfit (authorize_error hauth) hrelay)
  | ok tunnelID =>
    obtain rfl := authorize_ok hid hauth
    rw [hauth] at hrelay
    simp only at hrelay
    by_cases hne : tc.tunnelID = []
    · have hconnect : s.connect dialed tc.tunnelID = s.reject dialed (ascii "registration failed") := by
        simp [Server.connect, Dispatcher.register, hne]
      exact .inr (agentSide_of_reject haddr hfit (by decide) (hrelay.trans hconnect))
    · left
      obtain ⟨s', hs', hsc⟩ := connect_eq (s := s) hne (tunnelID_lt hfit)
      rw [hs'] at hrelay
      have hconn := Server.connected_of_connect hs'
      refine ⟨_, s', _, hrelay, hconn.row, hsc, rfl, ?_, rfl,
        agentSide_of_connect haddr hfit hrelay hsc rfl⟩
      intro ops hops hcount
      rw [hops]
      exact (issued_after ops hcount).fresh

def exampleRelay : Server Duplex :=
  ⟨newDispatcher, newStreamMultiplexer Duplex, newTokenValidator (ascii "secret") 0⟩

def zeroMac (_ _ : Bytes) : Bytes := List.replicate 32 0

def exampleAgent : TunnelConnection Duplex (List Frame) where
  tunnelID := ascii "T"
  token := (exampleRelay.tokenValidator.generate zeroMac 0 (ascii "T")).1
  quicConn := none
  wsConn := none

theorem handshake_agreement_example :
    (relaySide zeroMac 0 exampleRelay
      (dialed.sent exampleAgent.connectFrame.wireBytes)).1.connectedAs = some (ascii "T", 1) ∧
    (agentSide zeroMac 0 exampleRelay (ascii "relay.dev:7000") exampleAgent).1 = none := by
  have h := handshake_agreement zeroMac 0 exampleRelay (ascii "relay.dev:7000") exampleAgent
    (by decide) (by decide) (by decide)
  have hrun : (relaySide zeroMac 0 exampleRelay
      (dialed.sent exampleAgent.connectFrame.wireBytes)).1.connectedAs = some (ascii "T", 1) := rfl
  rcases h.2 with ⟨_, _, _, _, _, _, _, _, _, hagent⟩ | ⟨_, _, _, hrelay, _⟩
  · exact ⟨hrun, hagent⟩
  · rw [hrelay] at hrun
    cases hrun

end OmniTun.DataPath.HandshakeAgreement
