import OmniTun.Foundation.Json
import OmniTun.Foundation.Numerals

/-! The messages of the gateway: an envelope with a type and a payload of its own. -/

namespace OmniTun.Gateway

open OmniTun.Foundation OmniTun.Foundation.Numerals

def msgAgentHello : Bytes := ascii "agent.hello"
def msgServerTunnelConfig : Bytes := ascii "server.tunnel.config"
def msgServerTunnelStartAck : Bytes := ascii "server.tunnel.start_ack"
def msgServerTunnelStopCmd : Bytes := ascii "server.tunnel.stop_cmd"
def msgServerTunnelUpdate : Bytes := ascii "server.tunnel.update"
def msgServerShutdown : Bytes := ascii "server.shutdown"
def msgServerWelcome : Bytes := ascii "server.welcome"

/-- The timestamp is given by its RFC 3339 text. -/
structure WSMessage where
  type : Bytes
  id : Bytes
  timestamp : Bytes
  payload : Option Json

inductive Payload
  | absent
  | unsupported
  | value (json : Json)

structure HelloPayload where
  token : Bytes := []
  agentID : Bytes := []
  version : Bytes := []
  hostname : Bytes := []
  osType : Bytes := []
  publicKey : Bytes := []
  deriving DecidableEq

def HelloPayload.unmarshal (j : Json) : Option HelloPayload := do
  let fs ← j.fields
  let token ← Json.stringField fs (ascii "token")
  let agentID ← Json.stringField fs (ascii "agent_id")
  let version ← Json.stringField fs (ascii "version")
  let hostname ← Json.stringField fs (ascii "hostname")
  let osType ← Json.stringField fs (ascii "os_type")
  let publicKey ← Json.stringField fs (ascii "public_key")
  return ⟨token, agentID, version, hostname, osType, publicKey⟩

/-- What `NewMessage` draws from its environment: random bytes, or none when reading them fails,
and the time. -/
structure Draw where
  random : Option Bytes
  now : Bytes

def newMessage (draw : Draw) (msgType : Bytes) (payload : Payload) : Option WSMessage :=
  match payload, draw.random with
  | .unsupported, _ => none
  | _, none => none
  | .absent, some id => some ⟨msgType, hexEncode id, draw.now, none⟩
  | .value j, some id => some ⟨msgType, hexEncode id, draw.now, some j⟩

def WSMessage.marshal (m : WSMessage) : Json :=
  .obj ([(ascii "type", .str m.type), (ascii "id", .str m.id),
    (ascii "timestamp", .str m.timestamp)] ++ (m.payload.map fun j => (ascii "payload", j)).toList)

/-- `isTime` tells the texts that a time is read from. -/
def parseMessage (isTime : Bytes → Bool) (data : Option Json) : Option WSMessage := do
  let fs ← (← data).fields
  let type ← Json.stringField fs (ascii "type")
  let id ← Json.stringField fs (ascii "id")
  let timestamp ← Json.stringField fs (ascii "timestamp")
  if timestamp ≠ [] ∧ ¬ isTime timestamp then none
  else return ⟨type, id, timestamp, Json.rawField fs (ascii "payload")⟩

def WSMessage.unmarshalPayload {α : Type*} (m : WSMessage) (unmarshal : Json → Option α)
    (zero : α) : Option α :=
  match m.payload with
  | none => some zero
  | some j => unmarshal j

end OmniTun.Gateway
