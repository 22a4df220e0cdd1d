import OmniTun.Foundation.GroupedIndex
import OmniTun.Gateway.Message

/-! The hub: the connected agents of the gateway, by agent and by organisation. -/

namespace OmniTun.Gateway

open OmniTun.Foundation

/-- `ref` tells the connection objects apart: pointers are equal when all fields are. -/
structure AgentConnection where
  ref : ℕ
  agentID : Bytes
  orgID : Bytes
  version : Bytes
  deriving DecidableEq

structure Hub where
  agents : Table Bytes AgentConnection
  byOrg : Table Bytes (Table Bytes AgentConnection)

def newHub : Hub := ⟨∅, ∅⟩

inductive ContextError
  | canceled
  deriving DecidableEq, Repr

structure Outbox where
  queued : List Json
  cancelled : Bool

def sendChannelBuffer : ℕ := 256

/-- `pick` is the choice of the select when the channel has room and the context is cancelled. -/
def Outbox.writeMessage (b : Outbox) (pick : Bool) (data : Json) : Option ContextError × Outbox :=
  if b.queued.length < sendChannelBuffer ∧ (b.cancelled = false ∨ pick = true) then
    (none, { b with queued := b.queued ++ [data] })
  else if b.cancelled then (some .canceled, b)
  -- the channel is full: the message is dropped
  else (none, b)

inductive SendError
  | message
  | context (err : ContextError)
  deriving DecidableEq, Repr

namespace Hub

def add (h : Hub) (conn : AgentConnection) : Option AgentConnection × Hub :=
  let existing := h.agents.lookup conn.agentID
  let cleared : Hub :=
    match existing with
    | some e =>
      { agents := h.agents.erase conn.agentID
        byOrg := GroupedIndex.leave h.byOrg e.orgID conn.agentID }
    | none => h
  (existing,
    { agents := cleared.agents.insert conn.agentID conn
      byOrg :=
        if conn.orgID ≠ [] then GroupedIndex.enter cleared.byOrg conn.orgID conn.agentID conn
        else cleared.byOrg })

def remove (h : Hub) (conn : AgentConnection) : Hub :=
  if h.agents.lookup conn.agentID = some conn then
    { agents := h.agents.erase conn.agentID
      byOrg := GroupedIndex.leaveAndDrop h.byOrg conn.orgID conn.agentID }
  else h

def get (h : Hub) (agentID : Bytes) : Option AgentConnection := h.agents.lookup agentID

def getAgentsByOrg (h : Hub) (order : Table.RangeOrder Bytes) (orgID : Bytes) :
    List AgentConnection :=
  match h.byOrg.lookup orgID with
  | none => []
  | some orgAgents => (order.entries orgAgents).map Prod.snd

def sendToAgent (h : Hub) (pick : Bool) (draw : Draw) (boxes : AgentConnection → Outbox)
    (agentID msgType : Bytes) (payload : Payload) :
    Option SendError × (AgentConnection → Outbox) :=
  match h.agents.lookup agentID with
  | none => (none, boxes)
  | some conn =>
    match newMessage draw msgType payload with
    | none => (some .message, boxes)
    | some msg =>
      let (err, box) := (boxes conn).writeMessage pick msg.marshal
      (err.map .context, Function.update boxes conn box)

def broadcastTurn (pick : Bool) (draw : Draw) (msgType : Bytes) (payload : Payload) (box : Outbox) :
    Outbox :=
  match newMessage draw msgType payload with
  | none => box
  | some msg => (box.writeMessage pick msg.marshal).2

def broadcastToOrg (h : Hub) (order : Table.RangeOrder Bytes) (pick : AgentConnection → Bool)
    (draw : AgentConnection → Draw) (boxes : AgentConnection → Outbox) (orgID msgType : Bytes)
    (payload : Payload) : AgentConnection → Outbox :=
  (h.getAgentsByOrg order orgID).foldl (fun boxes conn => Function.update boxes conn
    (broadcastTurn (pick conn) (draw conn) msgType payload (boxes conn))) boxes

end Hub

structure HubLoop where
  hub : Hub
  register : List AgentConnection
  unregister : List AgentConnection

namespace HubLoop

def channelBuffer : ℕ := 64

def init : HubLoop := ⟨newHub, [], []⟩

def sendRegister (l : HubLoop) (conn : AgentConnection) : Option HubLoop :=
  if l.register.length < channelBuffer then some { l with register := l.register ++ [conn] } else none

def sendUnregister (l : HubLoop) (conn : AgentConnection) : Option HubLoop :=
  if l.unregister.length < channelBuffer then
    some { l with unregister := l.unregister ++ [conn] }
  else none

def takeRegister (l : HubLoop) : Option (AgentConnection × Option AgentConnection × HubLoop) :=
  match l.register with
  | [] => none
  | conn :: rest =>
    let (existing, hub) := l.hub.add conn
    some (conn, existing, { l with hub := hub, register := rest })

def takeUnregister (l : HubLoop) : Option HubLoop :=
  match l.unregister with
  | [] => none
  | conn :: rest => some { l with hub := l.hub.remove conn, unregister := rest }

section

variable {l l' : HubLoop} {conn : AgentConnection} {existing : Option AgentConnection}

lemma sendRegister_eq_some (h : l.sendRegister conn = some l') :
    l' = { l with register := l.register ++ [conn] } :=
  (Option.some.inj (Option.ite_none_right_eq_some.mp h).2).symm

lemma sendUnregister_eq_some (h : l.sendUnregister conn = some l') :
    l' = { l with unregister := l.unregister ++ [conn] } :=
  (Option.some.inj (Option.ite_none_right_eq_some.mp h).2).symm

lemma takeRegister_eq_some (h : l.takeRegister = some (conn, existing, l')) :
    ∃ rest, l.register = conn :: rest ∧ existing = (l.hub.add conn).1 ∧
      l' = { l with hub := (l.hub.add conn).2, register := rest } := by
  unfold takeRegister at h
  split at h
  next => cases h
  next conn' rest hq =>
    obtain ⟨rfl, hrest⟩ := Prod.mk.inj (Option.some.inj h)
    obtain ⟨rfl, rfl⟩ := Prod.mk.inj hrest
    exact ⟨rest, hq, rfl, rfl⟩

lemma takeUnregister_eq_some (h : l.takeUnregister = some l') :
    ∃ conn rest, l.unregister = conn :: rest ∧
      l' = { l with hub := l.hub.remove conn, unregister := rest } := by
  unfold takeUnregister at h
  split at h
  next => cases h
  next conn rest hq => exact ⟨conn, rest, hq, (Option.some.inj h).symm⟩

end

end HubLoop

end OmniTun.Gateway
