import OmniTun.Foundation.Json
import OmniTun.Foundation.OwnedRows

/-! What the REST handlers read and write: the tables of the database, the mesh networks in the
server's memory and the traffic events in ClickHouse. -/

namespace OmniTun.Api

open OmniTun.Foundation OwnedRows

structure TunnelRow where
  id : Bytes
  organizationID : Bytes
  name : Bytes
  slug : Bytes
  protocol : Bytes
  localPort : ℤ
  customDomain : Option Bytes
  status : Bytes
  bytesInTotal : ℤ
  bytesOutTotal : ℤ
  createdAt : ℤ
  deletedAt : Option ℤ
  deriving DecidableEq

structure APIKeyRow where
  id : Bytes
  organizationID : Bytes
  revokedAt : Option ℤ
  deriving DecidableEq

def TunnelRow.setName (name : Bytes) (t : TunnelRow) : TunnelRow := { t with name := name }

def TunnelRow.setDeletedAt (now : ℤ) (t : TunnelRow) : TunnelRow := { t with deletedAt := some now }

def APIKeyRow.setRevokedAt (now : ℤ) (k : APIKeyRow) : APIKeyRow := { k with revokedAt := some now }

structure AuditEvent where
  orgID : Bytes
  userID : Bytes
  action : Bytes
  resourceType : Bytes
  resourceID : Bytes
  details : Bytes := []
  clientIP : Bytes
  deriving DecidableEq

structure TrafficEvent where
  timestamp : ℤ
  organizationID : Bytes
  tunnelID : Bytes
  connectionID : Bytes
  protocol : Bytes
  direction : Bytes
  bytes : ℤ
  method : Bytes
  path : Bytes
  statusCode : ℤ
  clientIP : Bytes
  clientCountry : Bytes
  durationMs : ℤ
  error : Bytes
  deriving DecidableEq

structure MeshNetworkRecord where
  id : Bytes
  name : Bytes
  cidr : Bytes
  orgID : Bytes
  createdAt : ℤ
  deriving DecidableEq

structure MeshNodeRecord where
  nodeID : Bytes
  networkID : Bytes
  name : Bytes
  meshIP : Bytes
  publicKey : Bytes
  endpoint : Bytes
  status : Bytes
  deriving DecidableEq

structure MeshStore where
  networks : Table Bytes MeshNetworkRecord
  nodes : Table Bytes (List MeshNodeRecord)
  invites : Table Bytes Bytes
  under : ∀ id, networks.lookup id = none → nodes.lookup id = none ∧ invites.lookup id = none

namespace MeshStore

def empty : MeshStore := ⟨∅, ∅, ∅, fun _ _ => ⟨rfl, rfl⟩⟩

def nodesOf (m : MeshStore) (networkID : Bytes) : List MeshNodeRecord :=
  (m.nodes.lookup networkID).getD []

def entry (m : MeshStore) (networkID : Bytes) :
    Option (MeshNetworkRecord × List MeshNodeRecord × Option Bytes) :=
  (m.networks.lookup networkID).map fun n => (n, m.nodesOf networkID, m.invites.lookup networkID)

def owned (m : MeshStore) (orgID networkID : Bytes) :
    Option (MeshNetworkRecord × List MeshNodeRecord × Option Bytes) :=
  (m.entry networkID).filter fun e => e.1.orgID = orgID

end MeshStore

structure Store where
  tunnels : List TunnelRow
  apiKeys : List APIKeyRow
  mesh : MeshStore
  trafficEvents : List TrafficEvent
  auditLog : List AuditEvent
  tunnels_keyed : (tunnels.map TunnelRow.id).Nodup
  apiKeys_keyed : (apiKeys.map APIKeyRow.id).Nodup

structure Rows where
  tunnels : List TunnelRow
  apiKeys : List APIKeyRow
  networks : Bytes → Option (MeshNetworkRecord × List MeshNodeRecord × Option Bytes)
  trafficEvents : List TrafficEvent
  auditLog : List AuditEvent

namespace Store

def empty : Store := ⟨[], [], .empty, [], [], List.nodup_nil, List.nodup_nil⟩

def rows (orgID : Bytes) (s : Store) : Rows where
  tunnels := owned TunnelRow.organizationID orgID s.tunnels
  apiKeys := owned APIKeyRow.organizationID orgID s.apiKeys
  networks := s.mesh.owned orgID
  trafficEvents := owned TrafficEvent.organizationID orgID s.trafficEvents
  auditLog := owned AuditEvent.orgID orgID s.auditLog

def updateTunnel (id : Bytes) (f : TunnelRow → TunnelRow) (hf : ∀ t, (f t).id = t.id) (s : Store) :
    Store :=
  { s with
    tunnels := update TunnelRow.id id f s.tunnels
    tunnels_keyed := by
      rw [map_update hf]
      exact s.tunnels_keyed }

def updateAPIKey (id : Bytes) (f : APIKeyRow → APIKeyRow) (hf : ∀ k, (f k).id = k.id) (s : Store) :
    Store :=
  { s with
    apiKeys := update APIKeyRow.id id f s.apiKeys
    apiKeys_keyed := by
      rw [map_update hf]
      exact s.apiKeys_keyed }

end Store

structure Caller where
  orgID : Bytes
  userID : Bytes
  clientIP : Bytes

/-- What a request meets: whether the database answers, how it reads an id and whether it takes an
audit event, the clock and its format, and the drawn id. -/
structure Env where
  available : Bool
  uuidIn : Bytes → Option Bytes
  inserts : AuditEvent → Bool
  now : ℤ
  formatTime : ℤ → Bytes
  uuidStr : Bytes

def Store.log (env : Env) (e : AuditEvent) (s : Store) : Store :=
  if env.inserts e then { s with auditLog := s.auditLog ++ [e] } else s

structure Response where
  status : ℕ
  body : Json

def jsonObj (fs : List (String × Json)) : Json := .obj (fs.map fun f => (ascii f.1, f.2))

def respondError (status : ℕ) (code message : String) : Response :=
  ⟨status, jsonObj [("error",
    jsonObj [("code", .str (ascii code)), ("message", .str (ascii message))])]⟩

def respondMessage (message : String) : Response :=
  ⟨200, jsonObj [("message", .str (ascii message))]⟩

end OmniTun.Api
