import OmniTun.Api.TrafficLogs

/-! The REST handlers of tunnels, API keys and mesh networks that take an id from the URL. -/

namespace OmniTun.Api

open OmniTun.Foundation

variable (env : Env) (c : Caller)

def auditEvent (action resourceType : String) (resourceID : Bytes) : AuditEvent where
  orgID := c.orgID
  userID := c.userID
  action := ascii action
  resourceType := ascii resourceType
  resourceID := resourceID
  clientIP := c.clientIP

section Tunnels

def selectTunnel (tunnelID : Bytes) (s : Store) : Option TunnelRow :=
  if env.available then
    (env.uuidIn tunnelID).bind fun u =>
      s.tunnels.find? fun t => t.id = u ∧ t.deletedAt = none
  else none

def tunnelDomain (t : TunnelRow) : Bytes :=
  let domain := t.customDomain.getD []
  if domain = [] then t.slug ++ ascii ".omnitun.io" else domain

def handleGetTunnel (tunnelID : Bytes) (s : Store) : Response :=
  match selectTunnel env tunnelID s with
  | none => respondError 404 "tunnel_not_found" "tunnel not found"
  | some t => ⟨200, jsonObj [("id", .str t.id), ("name", .str t.name), ("slug", .str t.slug),
      ("protocol", .str t.protocol), ("local_port", .num t.localPort),
      ("domain", .str (tunnelDomain t)), ("status", .str t.status),
      ("bytes_in_total", .num t.bytesInTotal), ("bytes_out_total", .num t.bytesOutTotal),
      ("created_at", .str (env.formatTime t.createdAt))]⟩

def listedTunnels (s : Store) : List TunnelRow :=
  if env.available then
    ((s.tunnels.filter fun t => t.organizationID = c.orgID ∧ t.deletedAt = none).mergeSort
      fun t t' => t'.createdAt ≤ t.createdAt).take 50
  else []

def tunnelJson (t : TunnelRow) : Json :=
  jsonObj [("id", .str t.id), ("name", .str t.name), ("slug", .str t.slug),
    ("protocol", .str t.protocol), ("local_port", .num t.localPort),
    ("domain", .str (tunnelDomain t)), ("status", .str t.status),
    ("bytes_in_total", .num t.bytesInTotal), ("bytes_out_total", .num t.bytesOutTotal),
    ("created_at", .str (env.formatTime t.createdAt))]

def handleListTunnels (s : Store) : Response :=
  ⟨200, jsonObj [("tunnels", .arr ((listedTunnels env c s).map (tunnelJson env)))]⟩

def decoded {α : Type*} (read : Json → Option α) (zero : α) (name : Bytes) (body : Option Json) : α :=
  match body with
  | some (.obj fs) => (((Json.named fs name).filterMap fun j =>
      match j with
      | .null => none
      | j => read j).getLast?).getD zero
  | _ => zero

def decodedString (name : Bytes) (body : Option Json) : Bytes :=
  decoded Json.readString [] name body

def decodedInt (name : Bytes) (body : Option Json) : ℤ := decoded Json.readInt 0 name body

def updateTunnelName (tunnelID name : Bytes) (s : Store) : Store :=
  if env.available ∧ 0 ∉ name then
    match env.uuidIn tunnelID with
    | none => s
    | some u => s.updateTunnel u (.setName name) fun _ => rfl
  else s

def handleUpdateTunnel (tunnelID : Bytes) (body : Option Json) (s : Store) : Response × Store :=
  let name := decodedString (ascii "name") body
  (respondMessage "updated", if name ≠ [] then updateTunnelName env tunnelID name s else s)

def deleteTunnel (tunnelID : Bytes) (s : Store) : Store :=
  if env.available then
    match env.uuidIn tunnelID with
    | none => s
    | some u => s.updateTunnel u (.setDeletedAt env.now) fun _ => rfl
  else s

def handleDeleteTunnel (tunnelID : Bytes) (s : Store) : Response × Store :=
  (respondMessage "deleted",
    (deleteTunnel env tunnelID s).log env (auditEvent c "tunnel.delete" "tunnel" tunnelID))

end Tunnels

section APIKeys

def revokeAPIKey (keyID : Bytes) (s : Store) : Store :=
  if env.available then
    match env.uuidIn keyID with
    | none => s
    | some u => s.updateAPIKey u (.setRevokedAt env.now) fun _ => rfl
  else s

def handleDeleteAPIKey (keyID : Bytes) (s : Store) : Response × Store :=
  (respondMessage "revoked",
    (revokeAPIKey env keyID s).log env (auditEvent c "apikey.revoke" "apikey" keyID))

end APIKeys

namespace MeshStore

def delete (networkID : Bytes) (m : MeshStore) : MeshStore where
  networks := m.networks.erase networkID
  nodes := m.nodes.erase networkID
  invites := m.invites.erase networkID
  under id h := by
    rw [Table.lookup_erase] at h
    rw [Table.lookup_erase, Table.lookup_erase]
    by_cases hid : id = networkID
    · simp only [if_pos hid, and_self]
    · simp only [if_neg hid] at h ⊢
      exact m.under id h

def setInvite (networkID inviteCode : Bytes) (m : MeshStore)
    (h : m.networks.lookup networkID ≠ none) : MeshStore :=
  { m with
    invites := m.invites.insert networkID inviteCode
    under := by
      intro id hid
      refine ⟨(m.under id hid).1, Table.lookup_insert_eq_none (m.under id hid).2 ?_⟩
      rintro rfl
      exact h hid }

def setNodes (networkID : Bytes) (nodes : List MeshNodeRecord) (m : MeshStore)
    (h : m.networks.lookup networkID ≠ none) : MeshStore :=
  { m with
    nodes := m.nodes.insert networkID nodes
    under := by
      intro id hid
      refine ⟨Table.lookup_insert_eq_none (m.under id hid).1 ?_, (m.under id hid).2⟩
      rintro rfl
      exact h hid }

lemma network_of_mem_nodes {m : MeshStore} {networkID : Bytes} {n : MeshNodeRecord}
    (h : n ∈ m.nodesOf networkID) : m.networks.lookup networkID ≠ none := by
  intro hnone
  rw [nodesOf, (m.under networkID hnone).1] at h
  cases h

def removeNode (networkID nodeID : Bytes) (m : MeshStore) : Option MeshStore :=
  if h : ∃ n ∈ m.nodesOf networkID, n.nodeID = nodeID then
    -- the loop stops at the first node with the id
    some (m.setNodes networkID ((m.nodesOf networkID).eraseP fun n => n.nodeID = nodeID)
      (network_of_mem_nodes h.choose_spec.1))
  else none

end MeshStore

section Mesh

def networkNotFound : Response := respondError 404 "not_found" "mesh network not found"

def meshNodeJson (n : MeshNodeRecord) : Json :=
  jsonObj [("id", .str n.nodeID), ("network_id", .str n.networkID), ("name", .str n.name),
    ("ip_address", .str n.meshIP), ("public_key", .str n.publicKey),
    ("nat_type", .str (ascii "unknown")), ("endpoints", .arr [.str n.endpoint]),
    ("status", .str n.status), ("last_seen_at", .null), ("created_at", .null)]

def handleGetMeshNetwork (networkID : Bytes) (s : Store) : Response :=
  match s.mesh.networks.lookup networkID with
  | none => networkNotFound
  | some network =>
    let nodeList := (s.mesh.nodesOf networkID).map meshNodeJson
    ⟨200, jsonObj [("id", .str network.id), ("name", .str network.name),
      ("cidr", .str network.cidr), ("nodes", .arr nodeList), ("node_count", .num nodeList.length),
      ("created_at", .num network.createdAt)]⟩

def handleDeleteMeshNetwork (networkID : Bytes) (s : Store) : Response × Store :=
  let s' := { s with mesh := s.mesh.delete networkID }
  match s.mesh.networks.lookup networkID with
  | none => (networkNotFound, s')
  | some _ => (respondMessage "deleted",
      s'.log env (auditEvent c "mesh.delete" "mesh_network" networkID))

def handleCreateMeshInvite (networkID : Bytes) (s : Store) : Response × Store :=
  if h : s.mesh.networks.lookup networkID = none then (networkNotFound, s)
  else
    let inviteCode := ascii "minv-" ++ env.uuidStr.take 12
    let s' := { s with mesh := s.mesh.setInvite networkID inviteCode h }
    (⟨201, jsonObj [("network_id", .str networkID), ("invite_code", .str inviteCode),
      ("expires_in", .num 3600)]⟩,
      s'.log env (auditEvent c "mesh.invite_created" "mesh_network" networkID))

def handleRemoveMeshNode (networkID nodeID : Bytes) (s : Store) : Response × Store :=
  match s.mesh.removeNode networkID nodeID with
  | none => (respondError 404 "not_found" "node not found", s)
  | some mesh => (respondMessage "node removed",
      { s with mesh := mesh }.log env (auditEvent c "mesh.node_removed" "mesh_node" nodeID))

end Mesh

inductive Request
  | getTunnel (tunnelID : Bytes)
  | updateTunnel (tunnelID : Bytes) (body : Option Json)
  | deleteTunnel (tunnelID : Bytes)
  | tunnelLogs (tunnelID : Bytes)
  | deleteAPIKey (keyID : Bytes)
  | getMeshNetwork (networkID : Bytes)
  | deleteMeshNetwork (networkID : Bytes)
  | createMeshInvite (networkID : Bytes)
  | removeMeshNode (networkID nodeID : Bytes)

def handle (env : Env) (chClient : Option ClickHouse) (c : Caller) (s : Store) :
    Request → Response × Store
  | .getTunnel tunnelID => (handleGetTunnel env tunnelID s, s)
  | .updateTunnel tunnelID body => handleUpdateTunnel env tunnelID body s
  | .deleteTunnel tunnelID => handleDeleteTunnel env c tunnelID s
  | .tunnelLogs tunnelID => (handleTunnelLogs chClient tunnelID s, s)
  | .deleteAPIKey keyID => handleDeleteAPIKey env c keyID s
  | .getMeshNetwork networkID => (handleGetMeshNetwork networkID s, s)
  | .deleteMeshNetwork networkID => handleDeleteMeshNetwork env c networkID s
  | .createMeshInvite networkID => handleCreateMeshInvite env c networkID s
  | .removeMeshNode networkID nodeID => handleRemoveMeshNode env c networkID nodeID s

end OmniTun.Api
