import OmniTun.Control.Messages
import OmniTun.Gateway.HubIndex

/-! The commands of the gateway, as the agent reads them. -/

namespace OmniTun.Gateway.Commands

open OmniTun.Foundation OmniTun.Control HubIndex

inductive HandlerCall
  | onTunnelStartAck (msg : TunnelStartAck)
  | onTunnelStopCmd (msg : TunnelStopCmd)
  | onTunnelConfig (msg : TunnelConfig)
  | onTunnelUpdate (msg : TunnelUpdate)
  | onShutdown (msg : ShutdownMessage)
  deriving DecidableEq

def recorder : MessageHandler (List HandlerCall) where
  onTunnelStartAck calls msg := calls ++ [.onTunnelStartAck msg]
  onTunnelStopCmd calls msg := calls ++ [.onTunnelStopCmd msg]
  onTunnelConfig calls msg := calls ++ [.onTunnelConfig msg]
  onTunnelUpdate calls msg := calls ++ [.onTunnelUpdate msg]
  onShutdown calls msg := calls ++ [.onShutdown msg]

def carried (msgType : Bytes) (p : Json) : Option HandlerCall :=
  if msgType = msgServerTunnelStartAck then
    (TunnelStartAck.unmarshal p).map fun m => .onTunnelStartAck { m with type := msgType }
  else if msgType = msgServerTunnelStopCmd then
    (TunnelStopCmd.unmarshal p).map fun m => .onTunnelStopCmd { m with type := msgType }
  else if msgType = msgServerTunnelConfig then
    (TunnelConfig.unmarshal p).map fun m => .onTunnelConfig { m with type := msgType }
  else if msgType = msgServerTunnelUpdate then
    (TunnelUpdate.unmarshal p).map fun m => .onTunnelUpdate { m with type := msgType }
  else if msgType = Gateway.msgServerShutdown then
    (ShutdownMessage.unmarshal p).map fun m => .onShutdown { m with type := msgType }
  else none

def HandlerCall.emptied : HandlerCall → HandlerCall
  | .onTunnelStartAck m => .onTunnelStartAck ⟨m.type, [], [], []⟩
  | .onTunnelStopCmd m => .onTunnelStopCmd ⟨m.type, []⟩
  | .onTunnelConfig m => .onTunnelConfig ⟨m.type, [], ∅⟩
  | .onTunnelUpdate m => .onTunnelUpdate ⟨m.type, [], [], 0⟩
  | .onShutdown m => .onShutdown ⟨m.type, []⟩

inductive Route
  | toAgent
  | toOrg
  deriving DecidableEq, Repr

def enqueue (h : Hub) (order : Table.RangeOrder Bytes) (pick : AgentConnection → Bool)
    (draw : AgentConnection → Draw) (boxes : AgentConnection → Outbox) (c : AgentConnection)
    (msgType : Bytes) (payload : Payload) : Route → Outbox
  | .toAgent => (h.sendToAgent (pick c) (draw c) boxes c.agentID msgType payload).2 c
  | .toOrg => h.broadcastToOrg order pick draw boxes c.orgID msgType payload c

section

variable {h : Hub} {order : Table.RangeOrder Bytes} {pick : AgentConnection → Bool}
  {draw : AgentConnection → Draw} {boxes : AgentConnection → Outbox} {c : AgentConnection}
  {msgType : Bytes} {p data : Json} {call : HandlerCall}

lemma newMessage_value {d : Draw} {msg : WSMessage}
    (hm : newMessage d msgType (.value p) = some msg) : msg.type = msgType ∧ msg.payload = some p := by
  cases hr : d.random with
  | none => simp [newMessage, hr] at hm
  | some id =>
    simp only [newMessage, hr, Option.some.injEq] at hm
    subst hm
    exact ⟨rfl, rfl⟩

lemma writeMessage_data {b : Outbox} {pk : Bool} {m : Json}
    (hq : (b.writeMessage pk m).2.queued = b.queued ++ [data]) : data = m := by
  simp only [Outbox.writeMessage] at hq
  split_ifs at hq
  · exact (List.singleton_inj.mp (List.append_cancel_left hq)).symm
  · simp at hq
  · simp at hq

lemma broadcastTurn_data {b : Outbox} {pk : Bool} {d : Draw}
    (hq : (Hub.broadcastTurn pk d msgType (.value p) b).queued = b.queued ++ [data]) :
    ∃ msg, newMessage d msgType (.value p) = some msg ∧ data = msg.marshal := by
  cases hm : newMessage d msgType (.value p) with
  | none => simp [Hub.broadcastTurn, hm] at hq
  | some msg =>
    simp only [Hub.broadcastTurn, hm] at hq
    exact ⟨msg, rfl, writeMessage_data hq⟩

lemma sendToAgent_eq {pk : Bool} {d : Draw} :
    (h.sendToAgent pk d boxes c.agentID msgType (.value p)).2 c =
      if Current h c then Hub.broadcastTurn pk d msgType (.value p) (boxes c) else boxes c := by
  by_cases hcur : Current h c
  · have hl : h.agents.lookup c.agentID = some c := hcur
    rw [if_pos hcur]
    cases hm : newMessage d msgType (.value p) <;>
      simp [Hub.sendToAgent, Hub.broadcastTurn, hl, hm]
  · rw [if_neg hcur]
    cases hl : h.agents.lookup c.agentID with
    | none => simp [Hub.sendToAgent, hl]
    | some e =>
      have he : c ≠ e := by
        rintro rfl
        exact hcur hl
      cases hm : newMessage d msgType (.value p) <;> simp [Hub.sendToAgent, hl, hm, he]

lemma enqueue_data (hi : Indexed h) {route : Route}
    (hq : (enqueue h order pick draw boxes c msgType (.value p) route).queued =
      (boxes c).queued ++ [data]) :
    ∃ msg : WSMessage, msg.type = msgType ∧ msg.payload = some p ∧ data = msg.marshal := by
  have hturn : (Hub.broadcastTurn (pick c) (draw c) msgType (.value p) (boxes c)).queued =
      (boxes c).queued ++ [data] := by
    cases route with
    | toAgent =>
      simp only [enqueue, sendToAgent_eq] at hq
      split_ifs at hq
      · exact hq
      · simp at hq
    | toOrg =>
      by_cases ho : c.orgID = []
      · simp [enqueue, Hub.broadcastToOrg, ho, getAgentsByOrg_nil order hi] at hq
      · simp only [enqueue, broadcastToOrg_eq hi ho] at hq
        split_ifs at hq
        · exact hq
        · simp at hq
  obtain ⟨msg, hm, hdata⟩ := broadcastTurn_data hturn
  exact ⟨msg, (newMessage_value hm).1, (newMessage_value hm).2, hdata⟩

section Decode

variable (m : WSMessage)

lemma messageType_marshal : messageType m.marshal = some m.type := by
  obtain ⟨type, id, timestamp, payload⟩ := m
  cases payload <;> rfl

lemma startAck_marshal : TunnelStartAck.unmarshal m.marshal = some ⟨m.type, [], [], []⟩ := by
  obtain ⟨type, id, timestamp, payload⟩ := m
  cases payload <;> rfl

lemma stopCmd_marshal : TunnelStopCmd.unmarshal m.marshal = some ⟨m.type, []⟩ := by
  obtain ⟨type, id, timestamp, payload⟩ := m
  cases payload <;> rfl

lemma config_marshal : TunnelConfig.unmarshal m.marshal = some ⟨m.type, [], ∅⟩ := by
  obtain ⟨type, id, timestamp, payload⟩ := m
  cases payload <;> rfl

lemma update_marshal : TunnelUpdate.unmarshal m.marshal = some ⟨m.type, [], [], 0⟩ := by
  obtain ⟨type, id, timestamp, payload⟩ := m
  cases payload <;> rfl

lemma shutdown_marshal : ShutdownMessage.unmarshal m.marshal = some ⟨m.type, []⟩ := by
  obtain ⟨type, id, timestamp, payload⟩ := m
  cases payload <;> rfl

end Decode

lemma types_eq : msgTunnelStartAck = msgServerTunnelStartAck ∧
    msgTunnelStopCmd = msgServerTunnelStopCmd ∧ msgTunnelConfig = msgServerTunnelConfig ∧
    msgTunnelUpdate = msgServerTunnelUpdate ∧ Control.msgServerShutdown = Gateway.msgServerShutdown :=
  ⟨rfl, rfl, rfl, rfl, rfl⟩

lemma handle_marshal {m : WSMessage} (hcall : carried m.type p = some call)
    (calls : List HandlerCall) :
    handleMessage (some recorder) calls (some m.marshal) = calls ++ [call.emptied] := by
  obtain ⟨eack, estop, econfig, eupdate, eshut⟩ := types_eq
  simp only [handleMessage, messageType_marshal, eack, estop, econfig, eupdate, eshut]
  simp only [carried] at hcall
  split_ifs at hcall with hack hstop hconfig hupdate hshut
  · obtain ⟨_, _, rfl⟩ := Option.map_eq_some_iff.mp hcall
    rw [if_pos hack, startAck_marshal]
    rfl
  · obtain ⟨_, _, rfl⟩ := Option.map_eq_some_iff.mp hcall
    rw [if_neg hack, if_pos hstop, stopCmd_marshal]
    rfl
  · obtain ⟨_, _, rfl⟩ := Option.map_eq_some_iff.mp hcall
    rw [if_neg hack, if_neg hstop, if_pos hconfig, config_marshal]
    rfl
  · obtain ⟨_, _, rfl⟩ := Option.map_eq_some_iff.mp hcall
    rw [if_neg hack, if_neg hstop, if_neg hconfig, if_pos hupdate, update_marshal]
    rfl
  · obtain ⟨_, _, rfl⟩ := Option.map_eq_some_iff.mp hcall
    rw [if_neg hack, if_neg hstop, if_neg hconfig, if_neg hupdate, if_pos hshut, shutdown_marshal]
    rfl

end

theorem command_agreement (ops : List HubOp) (order : Table.RangeOrder Bytes)
    (pick : AgentConnection → Bool) (draw : AgentConnection → Draw)
    (boxes : AgentConnection → Outbox) (c : AgentConnection) (route : Route) (msgType : Bytes)
    (p data : Json) (call : HandlerCall) (hcall : carried msgType p = some call)
    (hq : (enqueue (after ops) order pick draw boxes c msgType (.value p) route).queued =
      (boxes c).queued ++ [data]) :
    (∀ calls, messageLoop (some recorder) calls [some data] = calls ++ [call]) ↔
      call = call.emptied := by
  obtain ⟨m, rfl, _, rfl⟩ := enqueue_data (indexed_after ops) hq
  have hloop : ∀ calls, messageLoop (some recorder) calls [some m.marshal] =
      calls ++ [call.emptied] := handle_marshal hcall
  constructor
  · intro h
    have hnil := (h []).symm.trans (hloop [])
    simpa using hnil
  · intro h calls
    rw [hloop, ← h]

def emptyBoxes (_ : AgentConnection) : Outbox := ⟨[], false⟩

def exampleDraw (_ : AgentConnection) : Draw := ⟨some [1, 2], ascii "2025-01-01T00:00:00Z"⟩

def sentAlone (msgType : Bytes) (p : Json) (route : Route) : List Json :=
  (enqueue (after [.add firstConnection]) .byCode (fun _ => true) exampleDraw emptyBoxes
    firstConnection msgType (.value p) route).queued

def stopPayload : Json := .obj [(ascii "tunnel_id", .str (ascii "t1"))]

lemma sentAlone_toOrg (msgType : Bytes) (p : Json) :
    sentAlone msgType p .toOrg = sentAlone msgType p .toAgent := by
  have hi := indexed_after [.add firstConnection]
  have hcur : Current (after [.add firstConnection]) firstConnection := rfl
  have horg : firstConnection.orgID ≠ [] := by decide
  simp only [sentAlone, enqueue, sendToAgent_eq, broadcastToOrg_eq hi horg, hcur, and_self, if_true]

theorem command_agreement_empty :
    messageLoop (some recorder) []
      [(sentAlone Gateway.msgServerShutdown (.obj []) .toAgent).head?] =
        [.onShutdown ⟨Gateway.msgServerShutdown, []⟩] :=
  (command_agreement [.add firstConnection] .byCode (fun _ => true) exampleDraw emptyBoxes
    firstConnection .toAgent Gateway.msgServerShutdown (.obj []) _ _ rfl rfl).mpr rfl []

theorem command_agreement_fails :
    carried msgServerTunnelStopCmd stopPayload =
      some (.onTunnelStopCmd ⟨msgServerTunnelStopCmd, ascii "t1"⟩) ∧
    (sentAlone msgServerTunnelStopCmd stopPayload .toAgent).length = 1 ∧
    (sentAlone msgServerTunnelStopCmd stopPayload .toOrg).length = 1 ∧
    messageLoop (some recorder) []
        ((sentAlone msgServerTunnelStopCmd stopPayload .toAgent).map some) =
      [.onTunnelStopCmd ⟨msgServerTunnelStopCmd, []⟩] ∧
    messageLoop (some recorder) []
        ((sentAlone msgServerTunnelStopCmd stopPayload .toOrg).map some) =
      [.onTunnelStopCmd ⟨msgServerTunnelStopCmd, []⟩] := by
  simp only [sentAlone_toOrg]
  exact ⟨rfl, rfl, rfl, rfl, rfl⟩

end OmniTun.Gateway.Commands
