import OmniTun.Control.TunnelConnection

/-! The agent's side of the connection handshake. -/

namespace OmniTun.Control

open OmniTun.Foundation OmniTun.Foundation.Transport OmniTun.Protocol

inductive AckError
  | read (err : AgentError)
  | unexpectedFrame (type subType : UInt8)
  | context
  deriving DecidableEq, Repr

inductive EstablishError
  | emptyRelayAddr
  | dial
  | sendConnect (err : AgentError)
  | connectAck (err : AckError)
  deriving DecidableEq, Repr

namespace TunnelConnection

variable {κ σ : Type*}

def connectPayload (tc : TunnelConnection κ σ) : Bytes :=
  controlTunnelConnect :: (tc.tunnelID ++ ascii "\n" ++ tc.token)

def connectFrame (tc : TunnelConnection κ σ) : Frame :=
  ⟨frameVersion, frameTypeControl, 0, 0, tc.connectPayload⟩

def closeTransport (tc : TunnelConnection κ σ) : TunnelConnection κ σ :=
  { tc with quicConn := none, wsConn := none }

variable [Reader κ] [Writer κ] [MessageConn σ]

def sendConnectFrame (tc : TunnelConnection κ σ) : Option AgentError × TunnelConnection κ σ :=
  tc.writeFrame tc.connectFrame

def waitConnectAck (tc : TunnelConnection κ σ) (ctxDone : Bool) :
    Option AckError × TunnelConnection κ σ :=
  if ctxDone then (some .context, tc)
  else
    match tc.readFrame with
    | (.error err, tc) => (some (.read err), tc)
    | (.ok frame, tc) =>
      if frame.type ≠ frameTypeControl ∨ frame.controlSubType ≠ controlTunnelConnectAck then
        (some (.unexpectedFrame frame.type frame.controlSubType), tc)
      else (none, tc)

/-- `quic` and `ws` are what dialing gives, and `network` is what happens on the connection between
the agent's frame and its wait. -/
def establish (relayAddr : Bytes) (quic : Option κ) (ws : Option σ)
    (network : TunnelConnection κ σ → TunnelConnection κ σ) (ctxDone : Bool)
    (tc : TunnelConnection κ σ) : Option EstablishError × TunnelConnection κ σ :=
  if relayAddr = [] then (some .emptyRelayAddr, tc)
  else
    match quic, ws with
    | none, none => (some .dial, { tc with quicConn := none, wsConn := none })
    | quic, ws =>
      let tc := { tc with quicConn := quic, wsConn := if quic.isSome then tc.wsConn else ws }
      match tc.sendConnectFrame with
      | (some err, tc) => (some (.sendConnect err), tc.closeTransport)
      | (none, tc) =>
        match (network tc).waitConnectAck ctxDone with
        | (some err, tc) => (some (.connectAck err), tc.closeTransport)
        | (none, tc) => (none, tc)

section Duplex

variable {σ : Type*} [MessageConn σ] {tc : TunnelConnection Duplex σ} {conn : Duplex} {f : Frame}

lemma waitConnectAck_duplex (hq : tc.quicConn = some conn) (hc : conn.closed = false)
    (hf : f.Wire) (hin : conn.inbound = f.wireBytes) :
    tc.waitConnectAck false =
      if f.type ≠ frameTypeControl ∨ f.controlSubType ≠ controlTunnelConnectAck then
        (some (.unexpectedFrame f.type f.controlSubType),
          { tc with quicConn := some (conn.withInbound []) })
      else (none, { tc with quicConn := some (conn.withInbound []) }) := by
  have hin' : conn.inbound = f.wireBytes ++ [] := by rw [hin, List.append_nil]
  simp only [waitConnectAck, readFrame_duplex hq hc hf hin', Bool.false_eq_true, if_false]

end Duplex

end TunnelConnection

end OmniTun.Control
