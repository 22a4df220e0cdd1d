import OmniTun.Api.MeshNetworks

/-! What the clients decode from the bodies that the server sends: the control package's API client
and agent, and the SDK in Go. -/

namespace OmniTun.Sdk.Decoding

open OmniTun.Api OmniTun.Foundation

def decodeResult {α : Type} (read : Json → Option α) (r : Response) : Option α :=
  if 400 ≤ r.status then none else read r.body

def str (fs : List (Bytes × Json)) (name : String) : Option Bytes := Json.stringField fs (ascii name)

def int (fs : List (Bytes × Json)) (name : String) : Option ℤ := Json.intField fs (ascii name)

def bool (fs : List (Bytes × Json)) (name : String) : Option Bool :=
  Json.field Json.readBool false fs (ascii name)

def list {α : Type} (read : Json → Option α) (fs : List (Bytes × Json)) (name : String) :
    Option (List α) :=
  Json.listField read fs (ascii name)

/-! The control package. -/

structure TunnelResponse where
  id : Bytes
  name : Bytes
  protocol : Bytes
  localHost : Bytes
  localPort : ℤ
  remotePort : ℤ
  domain : Bytes
  status : Bytes
  publicURL : Bytes
  bytesIn : ℤ
  bytesOut : ℤ
  createdAt : ℤ

def TunnelResponse.ofFields (fs : List (Bytes × Json)) : Option TunnelResponse := do
  let id ← str fs "id"
  let name ← str fs "name"
  let protocol ← str fs "protocol"
  let localHost ← str fs "local_host"
  let localPort ← int fs "local_port"
  let remotePort ← int fs "remote_port"
  let domain ← str fs "domain"
  let status ← str fs "status"
  let publicURL ← str fs "public_url"
  let bytesIn ← int fs "bytes_in"
  let bytesOut ← int fs "bytes_out"
  let createdAt ← int fs "created_at"
  return ⟨id, name, protocol, localHost, localPort, remotePort, domain, status, publicURL, bytesIn,
    bytesOut, createdAt⟩

def TunnelResponse.unmarshal (j : Json) : Option TunnelResponse :=
  j.fields.bind TunnelResponse.ofFields

def tunnelListResponse (j : Json) : Option (List TunnelResponse) :=
  j.fields.bind fun fs => list TunnelResponse.unmarshal fs "tunnels"

def listTunnels (r : Response) : Option (List TunnelResponse) := decodeResult tunnelListResponse r

structure NetworkStatusResponse where
  id : Bytes
  name : Bytes
  cidr : Bytes
  nodeCount : ℤ
  createdAt : ℤ
  nodes : List (List (Bytes × Json))

def NetworkStatusResponse.ofFields (fs : List (Bytes × Json)) : Option NetworkStatusResponse := do
  let id ← str fs "id"
  let name ← str fs "name"
  let cidr ← str fs "cidr"
  let nodeCount ← int fs "node_count"
  let createdAt ← int fs "created_at"
  let nodes ← list Json.fields fs "nodes"
  return ⟨id, name, cidr, nodeCount, createdAt, nodes⟩

def NetworkStatusResponse.unmarshal (j : Json) : Option NetworkStatusResponse :=
  j.fields.bind NetworkStatusResponse.ofFields

def getNetworkStatus (r : Response) : Option NetworkStatusResponse :=
  decodeResult NetworkStatusResponse.unmarshal r

structure MeshPeer where
  nodeID : Bytes
  publicKey : Bytes
  meshIP : Bytes
  endpoint : Bytes
  allowedIPs : List Bytes

def MeshPeer.ofFields (fs : List (Bytes × Json)) : Option MeshPeer := do
  let nodeID ← str fs "node_id"
  let publicKey ← str fs "public_key"
  let meshIP ← str fs "mesh_ip"
  let endpoint ← str fs "endpoint"
  let allowedIPs ← list Json.readString fs "allowed_ips"
  return ⟨nodeID, publicKey, meshIP, endpoint, allowedIPs⟩

def MeshPeer.unmarshal (j : Json) : Option MeshPeer := j.fields.bind MeshPeer.ofFields

def peerResponse (j : Json) : Option (List MeshPeer) :=
  j.fields.bind fun fs => list MeshPeer.unmarshal fs "peers"

def getMeshPeers (r : Response) : Option (List MeshPeer) := decodeResult peerResponse r

/-! The SDK in Go. -/

section

variable (parseTime : Bytes → Option ℤ)

def zeroTime : ℤ := -62135596800

def readTime : Json → Option ℤ
  | .str s => parseTime s
  | _ => none

def time (fs : List (Bytes × Json)) (name : String) : Option ℤ :=
  Json.field (readTime parseTime) zeroTime fs (ascii name)

structure Tunnel where
  id : Bytes
  name : Bytes
  protocol : Bytes
  localPort : ℤ
  remotePort : ℤ
  domain : Bytes
  status : Bytes
  trafficIn : ℤ
  trafficOut : ℤ
  tags : List Bytes
  authMode : Bytes
  tlsMode : Bytes
  compression : Bool
  createdAt : ℤ
  updatedAt : ℤ

def Tunnel.ofFields (fs : List (Bytes × Json)) : Option Tunnel := do
  let id ← str fs "id"
  let name ← str fs "name"
  let protocol ← str fs "protocol"
  let localPort ← int fs "local_port"
  let remotePort ← int fs "remote_port"
  let domain ← str fs "domain"
  let status ← str fs "status"
  let trafficIn ← int fs "traffic_in"
  let trafficOut ← int fs "traffic_out"
  let tags ← list Json.readString fs "tags"
  let authMode ← str fs "auth_mode"
  let tlsMode ← str fs "tls_mode"
  let compression ← bool fs "compression"
  let createdAt ← time parseTime fs "created_at"
  let updatedAt ← time parseTime fs "updated_at"
  return ⟨id, name, protocol, localPort, remotePort, domain, status, trafficIn, trafficOut, tags,
    authMode, tlsMode, compression, createdAt, updatedAt⟩

def Tunnel.unmarshal (j : Json) : Option Tunnel := j.fields.bind (Tunnel.ofFields parseTime)

structure MeshNetwork where
  id : Bytes
  name : Bytes
  cidr : Bytes
  nodeCount : ℤ
  createdAt : ℤ

def MeshNetwork.ofFields (fs : List (Bytes × Json)) : Option MeshNetwork := do
  let id ← str fs "id"
  let name ← str fs "name"
  let cidr ← str fs "cidr"
  let nodeCount ← int fs "node_count"
  let createdAt ← time parseTime fs "created_at"
  return ⟨id, name, cidr, nodeCount, createdAt⟩

def MeshNetwork.unmarshal (j : Json) : Option MeshNetwork :=
  j.fields.bind (MeshNetwork.ofFields parseTime)

structure PaginatedList (α : Type) where
  data : List α
  page : ℤ
  perPage : ℤ
  total : ℤ
  totalPages : ℤ
  hasMore : Bool

def PaginatedList.ofFields {α : Type} (read : Json → Option α) (fs : List (Bytes × Json)) :
    Option (PaginatedList α) := do
  let data ← list read fs "data"
  let page ← int fs "page"
  let perPage ← int fs "per_page"
  let total ← int fs "total"
  let totalPages ← int fs "total_pages"
  let hasMore ← bool fs "has_more"
  return ⟨data, page, perPage, total, totalPages, hasMore⟩

def PaginatedList.unmarshal {α : Type} (read : Json → Option α) (j : Json) :
    Option (PaginatedList α) :=
  j.fields.bind (PaginatedList.ofFields read)

def Tunnels.list (r : Response) : Option (PaginatedList Tunnel) :=
  decodeResult (PaginatedList.unmarshal (Tunnel.unmarshal parseTime)) r

def Networks.create (r : Response) : Option MeshNetwork :=
  decodeResult (MeshNetwork.unmarshal parseTime) r

def Networks.get (r : Response) : Option MeshNetwork :=
  decodeResult (MeshNetwork.unmarshal parseTime) r

def Networks.list (r : Response) : Option (PaginatedList MeshNetwork) :=
  decodeResult (PaginatedList.unmarshal (MeshNetwork.unmarshal parseTime)) r

end

end OmniTun.Sdk.Decoding
