import OmniTun.Relay.DispatcherIsolation
import OmniTun.Relay.Stream
import OmniTun.Relay.Token

/-! The relay's side of the connection handshake, and the pushes of the control plane. -/

namespace OmniTun.Relay

open OmniTun.Foundation OmniTun.Foundation.Transport OmniTun.Protocol

inductive ConnectPayloadError
  | payloadTooShort
  | missingTokenSeparator
  deriving DecidableEq, Repr

def ConnectPayloadError.error : ConnectPayloadError → Bytes
  | .payloadTooShort => ascii "payload too short"
  | .missingTokenSeparator => ascii "missing token separator"

def newline : UInt8 := 10

def parseTunnelConnectPayload (payload : Bytes) : Except ConnectPayloadError (Bytes × Bytes) :=
  if payload.length ≤ 1 then .error .payloadTooShort
  else
    let data := payload.drop 1
    match data.dropWhile (· != newline) with
    | [] => .error .missingTokenSeparator
    | _ :: token => .ok (data.takeWhile (· != newline), token)

structure Server (κ : Type*) where
  dispatcher : Dispatcher
  streamMux : StreamMultiplexer κ
  tokenValidator : TokenValidator

/-- How a connection's handler ends, or `connected` when it waits for the shutdown. A rejected stream
is returned as the error frame leaves it. -/
inductive HandshakeResult (κ : Type*)
  | acceptFailed
  | decodeFailed (err : FrameError)
  | rejected (message : Bytes) (stream : κ)
  | ackFailed (err : FrameError)
  | connected (tunnelID : Bytes) (streamID : UInt64)

def HandshakeResult.connectedAs {κ : Type*} : HandshakeResult κ → Option (Bytes × UInt64)
  | .connected tunnelID streamID => some (tunnelID, streamID)
  | _ => none

def ackFrame (tunnelID : Bytes) (streamID : UInt64) : Frame :=
  ⟨frameVersion, frameTypeControl, 0, streamID, controlTunnelConnectAck :: tunnelID⟩

def authorize (mac : Bytes → Bytes → Bytes) (v : TokenValidator) (now : ℤ) (frame : Frame) :
    Except Bytes Bytes :=
  if frame.type ≠ frameTypeControl ∨ frame.controlSubType ≠ controlTunnelConnect then
    .error (ascii "expected TUNNEL_CONNECT")
  else
    match parseTunnelConnectPayload frame.payload with
    | .error err => .error err.error
    | .ok (tunnelID, token) =>
      match v.validate mac now token with
      | .error err => .error (ascii "invalid token: " ++ err.error)
      | .ok validatedID =>
        if validatedID ≠ tunnelID then .error (ascii "tunnel_id mismatch") else .ok tunnelID

namespace Server

variable {κ : Type*}

def reject [Writer κ] (s : Server κ) (stream : κ) (message : Bytes) : HandshakeResult κ × Server κ :=
  (.rejected message (encodeFrame stream (newErrorFrame errorAuthFailed message)).2, s)

def connect [Writer κ] (s : Server κ) (stream : κ) (tunnelID : Bytes) :
    HandshakeResult κ × Server κ :=
  match s.dispatcher.register { tunnelID := tunnelID } with
  | .error _ => s.reject stream (ascii "registration failed")
  | .ok dispatcher =>
    let (sc, streamMux) := s.streamMux.newStream tunnelID stream
    let (err, conn) := encodeFrame sc.conn (ackFrame tunnelID sc.streamID)
    let s : Server κ :=
      { s with
        dispatcher := dispatcher.setStreamID tunnelID sc.streamID
        streamMux := streamMux.withConn sc.streamID sc conn }
    match err with
    | some err => (.ackFailed err, s)
    | none => (.connected tunnelID sc.streamID, s)

/-- `stream` is what accepting the connection's stream gives, `none` when that fails. -/
def handleQUICConnection [Reader κ] [Writer κ] (mac : Bytes → Bytes → Bytes) (now : ℤ)
    (s : Server κ) (stream : Option κ) : HandshakeResult κ × Server κ :=
  match stream with
  | none => (.acceptFailed, s)
  | some stream =>
    match decodeFrame stream with
    | (.error err, _) => (.decodeFailed err, s)
    | (.ok frame, stream) =>
      match authorize mac s.tokenValidator now frame with
      | .error message => s.reject stream message
      | .ok tunnelID => s.connect stream tunnelID

def onConfigUpdate (unmarshal : Bytes → Option (List ConfigTunnel)) (s : Server κ) (msg : Bytes) :
    Server κ :=
  { s with dispatcher := s.dispatcher.onConfigUpdate unmarshal msg }

structure Connected (s s' : Server κ) (tunnelID : Bytes) (streamID : UInt64) : Prop where
  named : tunnelID ≠ []
  fresh : streamID = s.streamMux.nextStreamID
  routes : s'.dispatcher.byDomain = s.dispatcher.byDomain ∧
    s'.dispatcher.byPort = s.dispatcher.byPort ∧ s'.dispatcher.bySlug = s.dispatcher.bySlug
  row : s'.dispatcher.tunnels.lookup tunnelID = some { tunnelID := tunnelID, streamID := streamID }
  live : ∃ sc, s'.streamMux.getStream streamID = some sc ∧ sc.tunnelID = tunnelID

variable [Writer κ] {s s' : Server κ} {stream : κ} {tunnelID tunnelID' : Bytes} {streamID : UInt64}

lemma connected_of_connect (h : s.connect stream tunnelID = (.connected tunnelID' streamID, s')) :
    Connected s s' tunnelID' streamID := by
  by_cases hid : tunnelID = []
  · simp [connect, Dispatcher.register, hid, reject] at h
  · simp only [connect, Dispatcher.register, hid, dif_neg, not_false_eq_true] at h
    split at h
    · cases (Prod.mk.inj h).1
    · obtain ⟨hr, rfl⟩ := Prod.mk.inj h
      cases hr
      have hrow := s.dispatcher.store_row { tunnelID := tunnelID } hid
      obtain ⟨hdomain, hport, hslug⟩ := Dispatcher.modify_indexes
        (s.dispatcher.store { tunnelID := tunnelID } hid) tunnelID
        (fun ctx => { ctx with streamID := s.streamMux.nextStreamID }) fun _ => rfl
      refine ⟨hid, rfl, ⟨?_, ?_, ?_⟩, ?_, ?_⟩
      · exact hdomain
      · exact hport
      · exact hslug
      · show (Dispatcher.setStreamID _ _ _).tunnels.lookup tunnelID = _
        rw [Dispatcher.setStreamID, Dispatcher.modify_tunnels hrow, Table.lookup_insert, if_pos rfl]
      · exact ⟨_, Finmap.lookup_insert _, rfl⟩

lemma handleQUICConnection_decoded [Reader κ] {mac : Bytes → Bytes → Bytes} {now : ℤ}
    {stream stream' : κ} {frame : Frame} (h : decodeFrame stream = (.ok frame, stream')) :
    s.handleQUICConnection mac now (some stream) =
      match authorize mac s.tokenValidator now frame with
      | .error message => s.reject stream' message
      | .ok tunnelID => s.connect stream' tunnelID := by
  rw [handleQUICConnection, h]

lemma connected_of_handleQUICConnection [Reader κ] {mac : Bytes → Bytes → Bytes} {now : ℤ}
    {accepted : Option κ}
    (h : s.handleQUICConnection mac now accepted = (.connected tunnelID streamID, s')) :
    Connected s s' tunnelID streamID := by
  cases accepted with
  | none => cases h
  | some stream =>
    simp only [handleQUICConnection] at h
    split at h
    · cases h
    · split at h
      · cases h
      · exact connected_of_connect h

end Server

end OmniTun.Relay
