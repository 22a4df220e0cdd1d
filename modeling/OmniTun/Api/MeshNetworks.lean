import OmniTun.Api.Handlers
import OmniTun.Relay.Token

/-! The handlers that make mesh networks and add nodes to them, and the routes of all requests about
mesh networks. -/

namespace OmniTun.Api

open OmniTun.Foundation OmniTun.Foundation.Numerals
open OmniTun.Relay (unix)

structure MeshEnv extends Env where
  keyBytes : Bytes
  order : Table.RangeOrder Bytes

def meshID (env : MeshEnv) : Bytes := ascii "mesh-" ++ env.uuidStr.take 8

def newNodeID (env : MeshEnv) : Bytes := ascii "node-" ++ env.uuidStr.take 8

def newPublicKey (env : MeshEnv) : Bytes := hexEncode env.keyBytes

def peerIP (existingNodes : ℕ) : Bytes := ascii "10.42.0." ++ natNumeral (existingNodes + 2)

def peerNode (networkID nodeID publicKey : Bytes) (existingNodes : ℕ) : MeshNodeRecord where
  nodeID := nodeID
  networkID := networkID
  name := nodeID
  meshIP := peerIP existingNodes
  publicKey := publicKey
  endpoint := []
  status := ascii "online"

namespace MeshStore

def create (record : MeshNetworkRecord) (m : MeshStore) : MeshStore :=
  { m with
    networks := m.networks.insert record.id record
    under := by
      intro id h
      rw [Table.lookup_insert] at h
      split_ifs at h
      exact m.under id h }

def join (networkID nodeID publicKey : Bytes) (m : MeshStore) :
    Option (MeshNetworkRecord × MeshStore) :=
  match h : m.networks.lookup networkID with
  | none => none
  | some network =>
    let existingNodes := m.nodesOf networkID
    let node := peerNode networkID nodeID publicKey existingNodes.length
    some (network, m.setNodes networkID (existingNodes ++ [node]) (by simp [h]))

def invited (order : Table.RangeOrder Bytes) (inviteCode : Bytes) (m : MeshStore) : Option Bytes :=
  ((order.entries m.invites).find? fun e => e.2 = inviteCode).map Prod.fst

end MeshStore

section Handlers

variable (env : MeshEnv) (c : Caller)

def handleListMeshNetworks (s : Store) : Response :=
  let networks := (env.order.entries s.mesh.networks).filter fun e => e.2.orgID = c.orgID
  ⟨200, jsonObj [("networks", .arr (networks.map fun e =>
    jsonObj [("id", .str e.2.id), ("name", .str e.2.name), ("cidr", .str e.2.cidr),
      ("node_count", .num (s.mesh.nodesOf e.2.id).length), ("created_at", .num e.2.createdAt)]))]⟩

def orDefault (s : Bytes) (default : String) : Bytes := if s = [] then ascii default else s

def newNetwork (body : Option Json) : MeshNetworkRecord where
  id := meshID env
  name := orDefault (decodedString (ascii "name") body) "default-mesh"
  cidr := orDefault (decodedString (ascii "cidr") body) "10.42.0.0/16"
  orgID := c.orgID
  createdAt := unix env.now

def handleCreateMeshNetwork (body : Option Json) (s : Store) : Response × Store :=
  let record := newNetwork env c body
  (⟨201, jsonObj [("id", .str record.id), ("name", .str record.name), ("cidr", .str record.cidr),
    ("organization_id", .str record.orgID), ("created_at", .num record.createdAt)]⟩,
    { s with mesh := s.mesh.create record })

def nodeJoined (networkID : Bytes) (s : Store) : Store :=
  s.log env.toEnv (auditEvent c "mesh.node_joined" "mesh_network" networkID)

def handleJoinMeshNetwork (body : Option Json) (s : Store) : Response × Store :=
  let inviteCode := decodedString (ascii "invite_code") body
  if inviteCode = [] then (respondError 400 "invalid_request" "invite_code is required", s)
  else
    match s.mesh.invited env.order inviteCode with
    | none => (respondError 404 "not_found" "invalid invite code", s)
    | some networkID =>
      match s.mesh.join networkID (newNodeID env) (newPublicKey env) with
      | none => (respondError 404 "not_found" "invalid invite code", s)
      | some (network, mesh) =>
        (⟨200, jsonObj [("id", .str networkID), ("name", .str network.name),
          ("cidr", .str network.cidr), ("node_count", .num (mesh.nodesOf networkID).length),
          ("created_at", .num network.createdAt)]⟩,
          nodeJoined env c networkID { s with mesh := mesh })

def peerJson (n : MeshNodeRecord) : Json :=
  jsonObj [("node_id", .str n.nodeID), ("public_key", .str n.publicKey), ("mesh_ip", .str n.meshIP),
    ("endpoint", .str n.endpoint)]

def joinerID (body : Option Json) : Bytes :=
  let agentID := decodedString (ascii "agent_id") body
  if agentID = [] then newNodeID env else agentID

def joinerKey (body : Option Json) : Bytes :=
  let publicKey := decodedString (ascii "public_key") body
  if publicKey = [] then newPublicKey env else publicKey

def handleJoinMeshNetworkByNetworkID (networkID : Bytes) (body : Option Json) (s : Store) :
    Response × Store :=
  match s.mesh.join networkID (joinerID env body) (joinerKey env body) with
  | none => (networkNotFound, s)
  | some (network, mesh) =>
    let existingNodes := s.mesh.nodesOf networkID
    (⟨200, jsonObj [("network_id", .str network.id), ("cidr", .str network.cidr),
      ("peer_ip", .str (peerIP existingNodes.length)), ("peers", .arr (existingNodes.map peerJson)),
      ("node_id", .str (joinerID env body))]⟩,
      nodeJoined env c networkID { s with mesh := mesh })

end Handlers

inductive MeshRequest
  | list
  | create (body : Option Json)
  | join (body : Option Json)
  | joinByNetworkID (networkID : Bytes) (body : Option Json)
  | get (networkID : Bytes)
  | delete (networkID : Bytes)
  | createInvite (networkID : Bytes)
  | removeNode (networkID nodeID : Bytes)

def handleMesh (env : MeshEnv) (c : Caller) (s : Store) : MeshRequest → Response × Store
  | .list => (handleListMeshNetworks env c s, s)
  | .create body => handleCreateMeshNetwork env c body s
  | .join body => handleJoinMeshNetwork env c body s
  | .joinByNetworkID networkID body => handleJoinMeshNetworkByNetworkID env c networkID body s
  | .get networkID => (handleGetMeshNetwork networkID s, s)
  | .delete networkID => handleDeleteMeshNetwork env.toEnv c networkID s
  | .createInvite networkID => handleCreateMeshInvite env.toEnv c networkID s
  | .removeNode networkID nodeID => handleRemoveMeshNode env.toEnv c networkID nodeID s

def MeshStore.joined (networkID nodeID publicKey : Bytes) (m : MeshStore) : MeshStore :=
  (m.join networkID nodeID publicKey).elim m Prod.snd

section Effects

variable {env : MeshEnv} {c : Caller} {s : Store} {m m' : MeshStore} {id id' nodeID key code : Bytes}
  {body : Option Json}

lemma log_mesh {env : Env} {e : AuditEvent} {s : Store} : (s.log env e).mesh = s.mesh := by
  rw [Store.log]
  split_ifs <;> rfl

lemma MeshStore.joined_of_none (h : m.networks.lookup id = none) : m.joined id nodeID key = m := by
  have hjoin : m.join id nodeID key = none := by
    unfold MeshStore.join
    split
    · rfl
    next network hn => simp [h] at hn
  rw [MeshStore.joined, hjoin, Option.elim_none]

lemma MeshStore.joined_networks : (m.joined id nodeID key).networks = m.networks := by
  unfold MeshStore.joined MeshStore.join
  split <;> rfl

lemma MeshStore.joined_invites : (m.joined id nodeID key).invites = m.invites := by
  unfold MeshStore.joined MeshStore.join
  split <;> rfl

lemma MeshStore.nodesOf_joined (h : m.networks.lookup id ≠ none) :
    (m.joined id nodeID key).nodesOf id' =
      if id' = id then m.nodesOf id ++ [peerNode id nodeID key (m.nodesOf id).length]
      else m.nodesOf id' := by
  unfold MeshStore.joined MeshStore.join
  split
  next hn => exact absurd hn h
  next network hn =>
    simp only [Option.elim_some, MeshStore.nodesOf, MeshStore.setNodes, Table.lookup_insert]
    split_ifs <;> rfl

lemma MeshStore.nodesOf_delete :
    (m.delete id).nodesOf id' = if id' = id then [] else m.nodesOf id' := by
  simp only [MeshStore.nodesOf, MeshStore.delete, Table.lookup_erase]
  split_ifs <;> rfl

lemma MeshStore.removeNode_eq_some (h : m.removeNode id nodeID = some m') :
    m'.networks = m.networks ∧ m'.invites = m.invites ∧
      ∀ id', (m'.nodesOf id').Sublist (m.nodesOf id') := by
  unfold MeshStore.removeNode at h
  split_ifs at h
  obtain rfl := Option.some.inj h
  refine ⟨rfl, rfl, fun id' => ?_⟩
  simp only [MeshStore.nodesOf, MeshStore.setNodes, Table.lookup_insert]
  split_ifs with hid
  · subst hid
    exact List.eraseP_sublist
  · exact List.Sublist.refl _

lemma handleJoin_mesh : (handleJoinMeshNetwork env c body s).2.mesh =
    if decodedString (ascii "invite_code") body = [] then s.mesh
    else (s.mesh.invited env.order (decodedString (ascii "invite_code") body)).elim s.mesh fun id =>
      s.mesh.joined id (newNodeID env) (newPublicKey env) := by
  simp only [handleJoinMeshNetwork]
  split_ifs
  · rfl
  · cases s.mesh.invited env.order (decodedString (ascii "invite_code") body) with
    | none => rfl
    | some id =>
      simp only [Option.elim_some, MeshStore.joined]
      cases s.mesh.join id (newNodeID env) (newPublicKey env) with
      | none => rfl
      | some p => exact log_mesh

lemma handleJoinByNetworkID_mesh : (handleJoinMeshNetworkByNetworkID env c id body s).2.mesh =
    s.mesh.joined id (joinerID env body) (joinerKey env body) := by
  rw [handleJoinMeshNetworkByNetworkID, MeshStore.joined]
  cases s.mesh.join id (joinerID env body) (joinerKey env body) with
  | none => rfl
  | some p => exact log_mesh

lemma handleDelete_mesh {env : Env} :
    (handleDeleteMeshNetwork env c id s).2.mesh = s.mesh.delete id := by
  rw [handleDeleteMeshNetwork]
  cases s.mesh.networks.lookup id with
  | none => rfl
  | some network => exact log_mesh

lemma handleCreateInvite_mesh {env : Env} : (handleCreateMeshInvite env c id s).2.mesh =
    if h : s.mesh.networks.lookup id = none then s.mesh
    else s.mesh.setInvite id (ascii "minv-" ++ env.uuidStr.take 12) h := by
  rw [handleCreateMeshInvite]
  split_ifs
  · rfl
  · exact log_mesh

lemma handleRemoveNode_mesh {env : Env} :
    (handleRemoveMeshNode env c id nodeID s).2.mesh = (s.mesh.removeNode id nodeID).getD s.mesh := by
  rw [handleRemoveMeshNode]
  cases s.mesh.removeNode id nodeID with
  | none => rfl
  | some mesh => exact log_mesh

end Effects

end OmniTun.Api
