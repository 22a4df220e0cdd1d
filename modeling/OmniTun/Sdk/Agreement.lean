import OmniTun.Api.MeshAddresses
import OmniTun.Sdk.Decoding

/-! Which of the server's bodies the clients decode to what the server listed. -/

namespace OmniTun.Sdk.Decoding

open OmniTun.Api OmniTun.Foundation
open OmniTun.Relay (unix)

structure TunnelView where
  id : Bytes
  name : Bytes
  bytesIn : ℤ
  bytesOut : ℤ
  createdAt : ℤ

structure NetworkView where
  id : Bytes
  name : Bytes
  createdAt : ℤ

structure NodeView where
  id : Json
  meshIP : Json
  publicKey : Json

def TunnelView.ofRow (t : TunnelRow) : TunnelView :=
  ⟨t.id, t.name, t.bytesInTotal, t.bytesOutTotal, unix t.createdAt⟩

def TunnelResponse.view (t : TunnelResponse) : TunnelView :=
  ⟨t.id, t.name, t.bytesIn, t.bytesOut, t.createdAt⟩

def Tunnel.view (t : Tunnel) : TunnelView := ⟨t.id, t.name, t.trafficIn, t.trafficOut, t.createdAt⟩

def NetworkView.ofRecord (n : MeshNetworkRecord) : NetworkView := ⟨n.id, n.name, n.createdAt⟩

def NetworkStatusResponse.view (n : NetworkStatusResponse) : NetworkView :=
  ⟨n.id, n.name, n.createdAt⟩

def MeshNetwork.view (n : MeshNetwork) : NetworkView := ⟨n.id, n.name, n.createdAt⟩

def NodeView.ofRecord (n : MeshNodeRecord) : NodeView :=
  ⟨.str n.nodeID, .str n.meshIP, .str n.publicKey⟩

def MeshPeer.view (p : MeshPeer) : NodeView := ⟨.str p.nodeID, .str p.meshIP, .str p.publicKey⟩

def valueAt (fs : List (Bytes × Json)) (name : String) : Json := (Json.get fs (ascii name)).getD .null

def nodeView (fs : List (Bytes × Json)) : NodeView :=
  ⟨valueAt fs "id", valueAt fs "ip_address", valueAt fs "public_key"⟩

variable {parseTime : Bytes → Option ℤ}

/-- A client decodes a body without error, to values that read as the server's. -/
def Decodes {α β : Type} (result : Option α) (view : α → β) (expected : β) : Prop :=
  ∃ a, result = some a ∧ view a = expected

lemma not_decodes_none {α β : Type} {view : α → β} {expected : β} :
    ¬ Decodes (none : Option α) view expected := by
  rintro ⟨a, h, -⟩
  cases h

lemma decodes_some {α β : Type} {a : α} {view : α → β} {expected : β} :
    Decodes (some a) view expected ↔ view a = expected := by
  simp [Decodes]

lemma decodeResult_ok {α : Type} {read : Json → Option α} {status : ℕ} {body : Json}
    (h : status < 400) : decodeResult read ⟨status, body⟩ = read body := if_neg (by simp; omega)

lemma fields_jsonObj (fs : List (String × Json)) :
    (jsonObj fs).fields = some (fs.map fun f => (ascii f.1, f.2)) := rfl

lemma mem_names {fs : List (String × Json)} {name : String} {v : Json} (h : (name, v) ∈ fs) :
    (ascii name, v) ∈ fs.map fun f => (ascii f.1, f.2) :=
  List.mem_map_of_mem (f := fun f : String × Json => (ascii f.1, f.2)) h

lemma list_only {α : Type} (read : Json → Option α) (name : String) (items : List Json) :
    list read [(ascii name, .arr items)] name = items.mapM read := by
  have hnamed : Json.named [(ascii name, .arr items)] (ascii name) = [.arr items] := by
    simp [Json.named]
  rw [list, Json.listField, Json.field_one hnamed (by simp)]
  rfl

/-! The lists of tunnels. -/

lemma tunnelResponse_unmarshal (env : Env) (t : TunnelRow) :
    TunnelResponse.unmarshal (tunnelJson env t) = none := by
  have hnone : ∀ fs : List (Bytes × Json), int fs "created_at" = none →
      TunnelResponse.ofFields fs = none := by
    intro fs h
    simp [TunnelResponse.ofFields, h]
  apply hnone
  have hmem : (ascii "created_at", Json.str (env.formatTime t.createdAt)) ∈
      [("id", Json.str t.id), ("name", .str t.name), ("slug", .str t.slug),
        ("protocol", .str t.protocol), ("local_port", .num t.localPort),
        ("domain", .str (tunnelDomain t)), ("status", .str t.status),
        ("bytes_in_total", .num t.bytesInTotal), ("bytes_out_total", .num t.bytesOutTotal),
        ("created_at", .str (env.formatTime t.createdAt))].map fun f => (ascii f.1, f.2) :=
    mem_names (by simp)
  exact Json.field_mismatch hmem (by simp) rfl

lemma listTunnels_decodes_iff (env : Env) (c : Caller) (s : Store) :
    Decodes (listTunnels (handleListTunnels env c s)) (List.map TunnelResponse.view)
        ((listedTunnels env c s).map TunnelView.ofRow) ↔
      listedTunnels env c s = [] := by
  have hlist : listTunnels (handleListTunnels env c s) =
      ((listedTunnels env c s).map (tunnelJson env)).mapM TunnelResponse.unmarshal := by
    rw [listTunnels, handleListTunnels, decodeResult_ok (by omega), tunnelListResponse,
      fields_jsonObj, Option.bind_some]
    exact list_only TunnelResponse.unmarshal "tunnels" _
  rw [hlist]
  cases listedTunnels env c s with
  | nil => simp [Decodes]
  | cons t ts =>
    have hnone : ((t :: ts).map (tunnelJson env)).mapM TunnelResponse.unmarshal = none := by
      rw [List.map_cons, List.mapM_cons, tunnelResponse_unmarshal]
      rfl
    rw [hnone]
    simp [not_decodes_none]

lemma paginatedList_unmarshal {α : Type} (read : Json → Option α) {name : String} (items : List Json)
    (h : ∀ field ∈ ["data", "page", "per_page", "total", "total_pages", "has_more"],
      Json.foldName (ascii name) ≠ Json.foldName (ascii field)) :
    PaginatedList.unmarshal read (jsonObj [(name, .arr items)]) = some ⟨[], 0, 0, 0, 0, false⟩ := by
  have hmissing : ∀ field ∈ ["data", "page", "per_page", "total", "total_pages", "has_more"],
      Json.named [(ascii name, .arr items)] (ascii field) = [] := by
    intro field hfield
    apply Json.named_missing
    intro f hf
    rw [List.mem_singleton.mp hf]
    exact h field hfield
  have hfields : ∀ fs : List (Bytes × Json),
      (∀ field ∈ ["data", "page", "per_page", "total", "total_pages", "has_more"],
        Json.named fs (ascii field) = []) →
      PaginatedList.ofFields read fs = some ⟨[], 0, 0, 0, 0, false⟩ := by
    intro fs hfs
    simp only [List.forall_mem_cons] at hfs
    obtain ⟨hdata, hpage, hperPage, htotal, htotalPages, hhasMore, -⟩ := hfs
    simp only [PaginatedList.ofFields, list, int, bool, Json.listField, Json.intField,
      Json.field_missing hdata, Json.field_missing hpage, Json.field_missing hperPage,
      Json.field_missing htotal, Json.field_missing htotalPages, Json.field_missing hhasMore]
    rfl
  exact hfields _ hmissing

lemma tunnelsList_decodes_iff (env : Env) (c : Caller) (s : Store) :
    Decodes (Tunnels.list parseTime (handleListTunnels env c s)) (fun l => l.data.map Tunnel.view)
        ((listedTunnels env c s).map TunnelView.ofRow) ↔
      listedTunnels env c s = [] := by
  have hlist : Tunnels.list parseTime (handleListTunnels env c s) =
      some ⟨[], 0, 0, 0, 0, false⟩ := by
    rw [Tunnels.list, handleListTunnels, decodeResult_ok (by omega)]
    exact paginatedList_unmarshal _ _ (by simp [Json.foldName, ascii])
  rw [hlist, decodes_some]
  simp [eq_comm (a := ([] : List TunnelView))]

/-! The networks. -/

lemma meshNetwork_unmarshal {fs : List (String × Json)} {n : ℤ} (h : ("created_at", .num n) ∈ fs) :
    MeshNetwork.unmarshal parseTime (jsonObj fs) = none := by
  have hnone : ∀ fs : List (Bytes × Json), time parseTime fs "created_at" = none →
      MeshNetwork.ofFields parseTime fs = none := by
    intro fs h
    simp [MeshNetwork.ofFields, h]
  rw [MeshNetwork.unmarshal, fields_jsonObj, Option.bind_some]
  apply hnone
  exact Json.field_mismatch (mem_names h) (by simp) rfl

lemma networksCreate_not_decodes (env : MeshEnv) (c : Caller) (body : Option Json) (s : Store) :
    ¬ Decodes (Networks.create parseTime (handleCreateMeshNetwork env c body s).1) MeshNetwork.view
      (NetworkView.ofRecord (newNetwork env c body)) := by
  have hnone : Networks.create parseTime (handleCreateMeshNetwork env c body s).1 = none := by
    rw [Networks.create, handleCreateMeshNetwork, decodeResult_ok (by omega)]
    exact meshNetwork_unmarshal (n := (newNetwork env c body).createdAt) (by simp)
  rw [hnone]
  exact not_decodes_none

def listedNetworks (env : MeshEnv) (c : Caller) (s : Store) : List MeshNetworkRecord :=
  ((env.order.entries s.mesh.networks).filter fun e => e.2.orgID = c.orgID).map Prod.snd

lemma networksList_decodes_iff (env : MeshEnv) (c : Caller) (s : Store) :
    Decodes (Networks.list parseTime (handleListMeshNetworks env c s))
        (fun l => l.data.map MeshNetwork.view)
        ((listedNetworks env c s).map NetworkView.ofRecord) ↔
      listedNetworks env c s = [] := by
  have hlist : Networks.list parseTime (handleListMeshNetworks env c s) =
      some ⟨[], 0, 0, 0, 0, false⟩ := by
    rw [Networks.list, handleListMeshNetworks, decodeResult_ok (by omega)]
    exact paginatedList_unmarshal _ _ (by simp [Json.foldName, ascii])
  rw [hlist, decodes_some]
  simp [eq_comm (a := ([] : List NetworkView))]

section

variable {s : Store} {networkID : Bytes} {network : MeshNetworkRecord}

lemma handleGetMeshNetwork_found (h : s.mesh.networks.lookup networkID = some network) :
    handleGetMeshNetwork networkID s =
      ⟨200, jsonObj [("id", .str network.id), ("name", .str network.name),
        ("cidr", .str network.cidr),
        ("nodes", .arr ((s.mesh.nodesOf networkID).map meshNodeJson)),
        ("node_count", .num (s.mesh.nodesOf networkID).length),
        ("created_at", .num network.createdAt)]⟩ := by
  simp [handleGetMeshNetwork, h]

lemma networksGet_not_decodes (h : s.mesh.networks.lookup networkID = some network) :
    ¬ Decodes (Networks.get parseTime (handleGetMeshNetwork networkID s)) MeshNetwork.view
      (NetworkView.ofRecord network) := by
  have hnone : Networks.get parseTime (handleGetMeshNetwork networkID s) = none := by
    rw [Networks.get, handleGetMeshNetwork_found h, decodeResult_ok (by omega)]
    exact meshNetwork_unmarshal (n := network.createdAt) (by simp)
  rw [hnone]
  exact not_decodes_none

lemma getMeshPeers_decodes_iff (h : s.mesh.networks.lookup networkID = some network) :
    Decodes (getMeshPeers (handleGetMeshNetwork networkID s)) (List.map MeshPeer.view)
        ((s.mesh.nodesOf networkID).map NodeView.ofRecord) ↔
      s.mesh.nodesOf networkID = [] := by
  have hpeers : getMeshPeers (handleGetMeshNetwork networkID s) = some [] := by
    rw [getMeshPeers, handleGetMeshNetwork_found h, decodeResult_ok (by omega), peerResponse,
      fields_jsonObj, Option.bind_some]
    apply Json.field_missing
    apply Json.named_missing
    simp [Json.foldName, ascii]
  rw [hpeers, decodes_some]
  simp [eq_comm (a := ([] : List NodeView))]

def nodeFields (n : MeshNodeRecord) : List (Bytes × Json) :=
  [("id", Json.str n.nodeID), ("network_id", .str n.networkID), ("name", .str n.name),
    ("ip_address", .str n.meshIP), ("public_key", .str n.publicKey),
    ("nat_type", .str (ascii "unknown")), ("endpoints", .arr [.str n.endpoint]),
    ("status", .str n.status), ("last_seen_at", .null), ("created_at", .null)].map
      fun f => (ascii f.1, f.2)

lemma meshNodeJson_fields (n : MeshNodeRecord) : (meshNodeJson n).fields = some (nodeFields n) := rfl

lemma nodeView_nodeFields (n : MeshNodeRecord) : nodeView (nodeFields n) = NodeView.ofRecord n := by
  have hnodup : ((nodeFields n).map Prod.fst).Nodup := by
    simp [nodeFields, ascii]
  have hid : Json.get (nodeFields n) (ascii "id") = some (.str n.nodeID) :=
    Json.get_unique hnodup (mem_names (by simp))
  have hip : Json.get (nodeFields n) (ascii "ip_address") = some (.str n.meshIP) :=
    Json.get_unique hnodup (mem_names (by simp))
  have hkey : Json.get (nodeFields n) (ascii "public_key") = some (.str n.publicKey) :=
    Json.get_unique hnodup (mem_names (by simp))
  rw [nodeView, valueAt, valueAt, valueAt, hid, hip, hkey]
  rfl

lemma readInt_num {n : ℤ} (h : -2 ^ 63 ≤ n ∧ n < 2 ^ 63) : Json.readInt (.num n) = some n := if_pos h

lemma getNetworkStatus_decodes (h : s.mesh.networks.lookup networkID = some network)
    (hcreated : -2 ^ 63 ≤ network.createdAt ∧ network.createdAt < 2 ^ 63)
    (hnodes : (s.mesh.nodesOf networkID).length < 2 ^ 63) :
    Decodes (getNetworkStatus (handleGetMeshNetwork networkID s))
      (fun n => (n.view, n.nodes.map nodeView))
      (NetworkView.ofRecord network, (s.mesh.nodesOf networkID).map NodeView.ofRecord) := by
  generalize hns : s.mesh.nodesOf networkID = ns at hnodes
  let fs : List (String × Json) := [("id", .str network.id), ("name", .str network.name),
    ("cidr", .str network.cidr), ("nodes", .arr (ns.map meshNodeJson)),
    ("node_count", .num ns.length), ("created_at", .num network.createdAt)]
  have hnodup : ((fs.map fun f => (ascii f.1, f.2)).map fun f => Json.foldName f.1).Nodup := by
    simp [fs, Json.foldName, ascii]
  have hfield : ∀ {α : Type} {read : Json → Option α} {zero : α} {name : String} {v : Json},
      (name, v) ∈ fs → v ≠ .null →
        Json.field read zero (fs.map fun f => (ascii f.1, f.2)) (ascii name) = read v :=
    fun hv hnull => Json.field_one (Json.named_unique hnodup (mem_names hv)) hnull
  have hid : str (fs.map fun f => (ascii f.1, f.2)) "id" = some network.id :=
    hfield (v := .str network.id) (by simp [fs]) (by simp)
  have hname : str (fs.map fun f => (ascii f.1, f.2)) "name" = some network.name :=
    hfield (v := .str network.name) (by simp [fs]) (by simp)
  have hcidr : str (fs.map fun f => (ascii f.1, f.2)) "cidr" = some network.cidr :=
    hfield (v := .str network.cidr) (by simp [fs]) (by simp)
  have hcount : int (fs.map fun f => (ascii f.1, f.2)) "node_count" = some (ns.length : ℤ) :=
    (hfield (v := .num ns.length) (by simp [fs]) (by simp)).trans (readInt_num (by omega))
  have hcreatedAt : int (fs.map fun f => (ascii f.1, f.2)) "created_at" = some network.createdAt :=
    (hfield (v := .num network.createdAt) (by simp [fs]) (by simp)).trans (readInt_num hcreated)
  have hlist : list Json.fields (fs.map fun f => (ascii f.1, f.2)) "nodes" =
      some (ns.map nodeFields) :=
    (hfield (v := .arr (ns.map meshNodeJson)) (by simp [fs]) (by simp)).trans
      (Json.readList_map meshNodeJson_fields ns)
  have hdecoded : getNetworkStatus (handleGetMeshNetwork networkID s) =
      some ⟨network.id, network.name, network.cidr, ns.length, network.createdAt,
        ns.map nodeFields⟩ := by
    rw [getNetworkStatus, handleGetMeshNetwork_found h, decodeResult_ok (by omega), hns,
      NetworkStatusResponse.unmarshal, fields_jsonObj, Option.bind_some]
    simp only [NetworkStatusResponse.ofFields]
    rw [hid, hname, hcidr, hcount, hcreatedAt, hlist]
    rfl
  rw [hdecoded, decodes_some]
  have hview : nodeView ∘ nodeFields = NodeView.ofRecord := funext nodeView_nodeFields
  rw [List.map_map, hview]
  rfl

end

structure ClientsDecode (parseTime : Bytes → Option ℤ) (env : MeshEnv) (c : Caller)
    (body : Option Json) (networkID : Bytes) (s : Store) : Prop where
  listTunnels : Decodes (listTunnels (handleListTunnels env.toEnv c s))
    (List.map TunnelResponse.view) ((listedTunnels env.toEnv c s).map TunnelView.ofRow)
  tunnelsList : Decodes (Tunnels.list parseTime (handleListTunnels env.toEnv c s))
    (fun l => l.data.map Tunnel.view) ((listedTunnels env.toEnv c s).map TunnelView.ofRow)
  networksCreate : Decodes (Networks.create parseTime (handleCreateMeshNetwork env c body s).1)
    MeshNetwork.view (NetworkView.ofRecord (newNetwork env c body))
  networksList : Decodes (Networks.list parseTime (handleListMeshNetworks env c s))
    (fun l => l.data.map MeshNetwork.view) ((listedNetworks env c s).map NetworkView.ofRecord)
  networksGet : ∀ network, s.mesh.networks.lookup networkID = some network →
    Decodes (Networks.get parseTime (handleGetMeshNetwork networkID s)) MeshNetwork.view
      (NetworkView.ofRecord network)
  getMeshPeers : ∀ network, s.mesh.networks.lookup networkID = some network →
    Decodes (getMeshPeers (handleGetMeshNetwork networkID s)) (List.map MeshPeer.view)
      ((s.mesh.nodesOf networkID).map NodeView.ofRecord)
  getNetworkStatus : ∀ network, s.mesh.networks.lookup networkID = some network →
    Decodes (getNetworkStatus (handleGetMeshNetwork networkID s))
      (fun n => (n.view, n.nodes.map nodeView))
      (NetworkView.ofRecord network, (s.mesh.nodesOf networkID).map NodeView.ofRecord)

/-- The clients never all decode: a list comes through when it is empty, a single network only to the
control package, and its nodes to the agent when there are none. -/
theorem clients_decode_never (env : MeshEnv) (c : Caller) (body : Option Json) (networkID : Bytes)
    (s : Store) :
    ¬ ClientsDecode parseTime env c body networkID s ∧
      (Decodes (listTunnels (handleListTunnels env.toEnv c s)) (List.map TunnelResponse.view)
          ((listedTunnels env.toEnv c s).map TunnelView.ofRow) ↔
        listedTunnels env.toEnv c s = []) ∧
      (Decodes (Tunnels.list parseTime (handleListTunnels env.toEnv c s))
          (fun l => l.data.map Tunnel.view) ((listedTunnels env.toEnv c s).map TunnelView.ofRow) ↔
        listedTunnels env.toEnv c s = []) ∧
      ¬ Decodes (Networks.create parseTime (handleCreateMeshNetwork env c body s).1)
        MeshNetwork.view (NetworkView.ofRecord (newNetwork env c body)) ∧
      (Decodes (Networks.list parseTime (handleListMeshNetworks env c s))
          (fun l => l.data.map MeshNetwork.view)
          ((listedNetworks env c s).map NetworkView.ofRecord) ↔
        listedNetworks env c s = []) ∧
      ∀ network, s.mesh.networks.lookup networkID = some network →
        ¬ Decodes (Networks.get parseTime (handleGetMeshNetwork networkID s)) MeshNetwork.view
          (NetworkView.ofRecord network) ∧
        (Decodes (getMeshPeers (handleGetMeshNetwork networkID s)) (List.map MeshPeer.view)
            ((s.mesh.nodesOf networkID).map NodeView.ofRecord) ↔
          s.mesh.nodesOf networkID = []) ∧
        (-2 ^ 63 ≤ network.createdAt ∧ network.createdAt < 2 ^ 63 →
          (s.mesh.nodesOf networkID).length < 2 ^ 63 →
          Decodes (getNetworkStatus (handleGetMeshNetwork networkID s))
            (fun n => (n.view, n.nodes.map nodeView))
            (NetworkView.ofRecord network,
              (s.mesh.nodesOf networkID).map NodeView.ofRecord)) := by
  refine ⟨fun hall => networksCreate_not_decodes env c body s hall.networksCreate,
    listTunnels_decodes_iff env.toEnv c s, tunnelsList_decodes_iff env.toEnv c s,
    networksCreate_not_decodes env c body s, networksList_decodes_iff env c s, ?_⟩
  intro network h
  exact ⟨networksGet_not_decodes h, getMeshPeers_decodes_iff h, getNetworkStatus_decodes h⟩

def office : MeshNetworkRecord where
  id := ascii "mesh-aaaaaaaa"
  name := ascii "office"
  cidr := ascii "10.42.0.0/16"
  orgID := ascii "org"
  createdAt := 1700000000

def officeStore : Store :=
  { Store.empty with
    mesh := (MeshStore.empty.create office).joined office.id (ascii "laptop") (ascii "key") }

lemma office_created : (MeshStore.empty.create office).networks.lookup office.id = some office := by
  simp [MeshStore.create]

lemma office_nodes : officeStore.mesh.nodesOf office.id =
    [peerNode office.id (ascii "laptop") (ascii "key") 0] := by
  have hne : (MeshStore.empty.create office).networks.lookup office.id ≠ none := by
    simp [office_created]
  rw [officeStore, MeshStore.nodesOf_joined hne, if_pos rfl]
  rfl

theorem clients_decode_never_office :
    ¬ Decodes (getMeshPeers (handleGetMeshNetwork office.id officeStore)) (List.map MeshPeer.view)
        ((officeStore.mesh.nodesOf office.id).map NodeView.ofRecord) ∧
      Decodes (getNetworkStatus (handleGetMeshNetwork office.id officeStore))
        (fun n => (n.view, n.nodes.map nodeView))
        (NetworkView.ofRecord office,
          (officeStore.mesh.nodesOf office.id).map NodeView.ofRecord) := by
  have h : officeStore.mesh.networks.lookup office.id = some office := by
    rw [officeStore, MeshStore.joined_networks, office_created]
  have hnodes : (officeStore.mesh.nodesOf office.id).length < 2 ^ 63 := by simp [office_nodes]
  obtain ⟨-, -, -, -, -, hnetwork⟩ := @clients_decode_never (fun _ => none) (meshEnv "bbbbbbbb")
    member none office.id officeStore
  obtain ⟨-, hpeers, hstatus⟩ := hnetwork office h
  refine ⟨fun hdecodes => ?_, hstatus (by decide) hnodes⟩
  have hnone := hpeers.mp hdecodes
  simp [office_nodes] at hnone

theorem clients_decode_fails :
    ¬ ∀ (parseTime : Bytes → Option ℤ) (env : MeshEnv) (c : Caller) (body : Option Json)
      (networkID : Bytes) (s : Store), ClientsDecode parseTime env c body networkID s := by
  intro h
  have hcreate := (h (fun _ => none) (meshEnv "bbbbbbbb") member none office.id
    Store.empty).networksCreate
  exact networksCreate_not_decodes _ _ _ _ hcreate

end OmniTun.Sdk.Decoding
