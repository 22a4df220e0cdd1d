import OmniTun.Foundation.Json

/-! The control messages of the agent, and its client's end of the control channel. -/

namespace OmniTun.Control

open OmniTun.Foundation

def msgAgentHello : Bytes := ascii "agent.hello"
def msgTunnelStartAck : Bytes := ascii "server.tunnel.start_ack"
def msgTunnelStopCmd : Bytes := ascii "server.tunnel.stop_cmd"
def msgTunnelConfig : Bytes := ascii "server.tunnel.config"
def msgTunnelUpdate : Bytes := ascii "server.tunnel.update"
def msgServerShutdown : Bytes := ascii "server.shutdown"

structure HelloMessage where
  type : Bytes
  agentID : Bytes
  version : Bytes
  token : Bytes
  deriving DecidableEq

def HelloMessage.marshal (m : HelloMessage) : Json :=
  .obj [(ascii "type", .str m.type), (ascii "agent_id", .str m.agentID),
    (ascii "version", .str m.version), (ascii "token", .str m.token)]

def newHelloMessage (agentID version token : Bytes) : HelloMessage :=
  ⟨msgAgentHello, agentID, version, token⟩

structure AgentClientConfig where
  agentID : Bytes
  token : Bytes
  version : Bytes
  deriving DecidableEq

def AgentClientConfig.hello (cfg : AgentClientConfig) : Json :=
  (newHelloMessage cfg.agentID cfg.version cfg.token).marshal

structure TunnelStartAck where
  type : Bytes
  tunnelID : Bytes
  relayAddress : Bytes
  token : Bytes
  deriving DecidableEq

structure TunnelStopCmd where
  type : Bytes
  tunnelID : Bytes
  deriving DecidableEq

structure TunnelConfig where
  type : Bytes
  tunnelID : Bytes
  config : Table Bytes Bytes
  deriving DecidableEq

structure TunnelUpdate where
  type : Bytes
  tunnelID : Bytes
  localHost : Bytes
  localPort : ℤ
  deriving DecidableEq

structure ShutdownMessage where
  type : Bytes
  reason : Bytes
  deriving DecidableEq

def messageType (j : Json) : Option Bytes := do
  Json.stringField (← j.fields) (ascii "type")

def TunnelStartAck.unmarshal (j : Json) : Option TunnelStartAck := do
  let fs ← j.fields
  let type ← Json.stringField fs (ascii "type")
  let tunnelID ← Json.stringField fs (ascii "tunnel_id")
  let relayAddress ← Json.stringField fs (ascii "relay_address")
  let token ← Json.stringField fs (ascii "token")
  return ⟨type, tunnelID, relayAddress, token⟩

def TunnelStopCmd.unmarshal (j : Json) : Option TunnelStopCmd := do
  let fs ← j.fields
  let type ← Json.stringField fs (ascii "type")
  let tunnelID ← Json.stringField fs (ascii "tunnel_id")
  return ⟨type, tunnelID⟩

def TunnelConfig.unmarshal (j : Json) : Option TunnelConfig := do
  let fs ← j.fields
  let type ← Json.stringField fs (ascii "type")
  let tunnelID ← Json.stringField fs (ascii "tunnel_id")
  let config ← Json.stringMapField fs (ascii "config")
  return ⟨type, tunnelID, config⟩

def TunnelUpdate.unmarshal (j : Json) : Option TunnelUpdate := do
  let fs ← j.fields
  let type ← Json.stringField fs (ascii "type")
  let tunnelID ← Json.stringField fs (ascii "tunnel_id")
  let localHost ← Json.stringField fs (ascii "local_host")
  let localPort ← Json.intField fs (ascii "local_port")
  return ⟨type, tunnelID, localHost, localPort⟩

def ShutdownMessage.unmarshal (j : Json) : Option ShutdownMessage := do
  let fs ← j.fields
  let type ← Json.stringField fs (ascii "type")
  let reason ← Json.stringField fs (ascii "reason")
  return ⟨type, reason⟩

structure MessageHandler (σ : Type*) where
  onTunnelStartAck : σ → TunnelStartAck → σ
  onTunnelStopCmd : σ → TunnelStopCmd → σ
  onTunnelConfig : σ → TunnelConfig → σ
  onTunnelUpdate : σ → TunnelUpdate → σ
  onShutdown : σ → ShutdownMessage → σ

section

variable {σ : Type*} (handler : Option (MessageHandler σ))

def call {α : Type*} (s : σ) (on : MessageHandler σ → σ → α → σ) (msg : Option α) : σ :=
  match msg, handler with
  | some msg, some h => on h s msg
  | _, _ => s

def handleMessage (s : σ) (raw : Option Json) : σ :=
  match raw with
  | none => s
  | some j =>
    match messageType j with
    | none => s
    | some type =>
      if type = msgTunnelStartAck then
        call handler s MessageHandler.onTunnelStartAck (TunnelStartAck.unmarshal j)
      else if type = msgTunnelStopCmd then
        call handler s MessageHandler.onTunnelStopCmd (TunnelStopCmd.unmarshal j)
      else if type = msgTunnelConfig then
        call handler s MessageHandler.onTunnelConfig (TunnelConfig.unmarshal j)
      else if type = msgTunnelUpdate then
        call handler s MessageHandler.onTunnelUpdate (TunnelUpdate.unmarshal j)
      else if type = msgServerShutdown then
        call handler s MessageHandler.onShutdown (ShutdownMessage.unmarshal j)
      else s

def messageLoop (s : σ) (raws : List (Option Json)) : σ := raws.foldl (handleMessage handler) s

end

end OmniTun.Control
