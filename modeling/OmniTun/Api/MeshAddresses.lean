import OmniTun.Api.MeshNetworks
import OmniTun.Foundation.IPv4
import OmniTun.Foundation.Transition

/-! The node ids and addresses within mesh networks, as requests make, join and leave them. -/

namespace OmniTun.Api

open OmniTun.Foundation IPv4 Numerals OwnedRows Transition

structure MeshAction where
  env : MeshEnv
  caller : Caller
  request : MeshRequest

def MeshAction.step (s : Store) (a : MeshAction) : Option Store :=
  some (handleMesh a.env a.caller s a.request).2

structure Addressed (cidr : Bytes) (nodes : List MeshNodeRecord) : Prop where
  ids : (nodes.map MeshNodeRecord.nodeID).Nodup
  addresses : (nodes.map MeshNodeRecord.meshIP).Nodup
  inside : ∀ n ∈ nodes, Inside cidr n.meshIP

def MeshStore.Addressed (m : MeshStore) : Prop :=
  ∀ id network, m.networks.lookup id = some network → Api.Addressed network.cidr (m.nodesOf id)

def hostAddr (existingNodes : ℕ) : ℕ := (10 * 256 + 42) * 256 * 256 + (existingNodes + 2)

structure Room (cidr : Bytes) (nodes : List MeshNodeRecord) (nodeID : Bytes) : Prop where
  unused : ∀ n ∈ nodes, n.nodeID ≠ nodeID
  free : ∀ n ∈ nodes, n.meshIP ≠ ascii "10.42.0." ++ natNumeral (nodes.length + 2)
  count : nodes.length + 2 ≤ 255
  inside : ∃ b, parseCIDR cidr = some b ∧ b.Contains (hostAddr nodes.length)

namespace MeshAction

def Allowed (s : Store) (a : MeshAction) : Prop :=
  match a.request with
  | .create body => ∀ n ∈ s.mesh.nodesOf (meshID a.env),
      Inside (orDefault (decodedString (ascii "cidr") body) "10.42.0.0/16") n.meshIP
  | .join body =>
    decodedString (ascii "invite_code") body ≠ [] →
      ∀ id, s.mesh.invited a.env.order (decodedString (ascii "invite_code") body) = some id →
        ∀ network, s.mesh.networks.lookup id = some network →
          Room network.cidr (s.mesh.nodesOf id) (newNodeID a.env)
  | .joinByNetworkID id body => ∀ network, s.mesh.networks.lookup id = some network →
      Room network.cidr (s.mesh.nodesOf id) (joinerID a.env body)
  | _ => True

end MeshAction

section Addresses

variable {m m' : MeshStore} {id id' nodeID key cidr : Bytes} {network : MeshNetworkRecord}
  {nodes : List MeshNodeRecord} {node : MeshNodeRecord}

lemma parseAddr_peerIP (k : ℕ) :
    parseAddr (peerIP k) = if k + 2 ≤ 255 then some (hostAddr k) else none := by
  have hpeer : peerIP k =
      [49, 48] ++ 46 :: ([52, 50] ++ 46 :: ([48] ++ 46 :: natNumeral (k + 2))) := rfl
  have h10 : parseOctet [49, 48] = some 10 := by decide
  have h42 : parseOctet [52, 50] = some 42 := by decide
  have h0 : parseOctet [48] = some 0 := by decide
  rw [hpeer, parseAddr_dots (by decide) (by decide) (by decide) (dot_not_mem_natNumeral _), h10,
    h42, h0, parseOctet_natNumeral]
  by_cases hk : k + 2 ≤ 255
  · rw [if_pos hk, if_pos hk]
    rfl
  · rw [if_neg hk, if_neg hk]
    rfl

lemma inside_peerIP {k : ℕ} : Inside cidr (peerIP k) ↔
    k + 2 ≤ 255 ∧ ∃ b, parseCIDR cidr = some b ∧ b.Contains (hostAddr k) := by
  rw [Inside, parseAddr_peerIP]
  constructor
  · rintro ⟨b, a, hb, ha, hc⟩
    obtain ⟨hk, rfl⟩ := Option.ite_none_right_eq_some.mp ha |>.imp_right Option.some.inj
    exact ⟨hk, b, hb, hc⟩
  · rintro ⟨hk, b, hb, hc⟩
    exact ⟨b, hostAddr k, hb, if_pos hk, hc⟩

lemma Addressed.nil : Addressed cidr [] :=
  ⟨List.nodup_nil, List.nodup_nil, fun _ h => absurd h List.not_mem_nil⟩

lemma Addressed.sublist {nodes' : List MeshNodeRecord} (h : Addressed cidr nodes)
    (hs : nodes'.Sublist nodes) : Addressed cidr nodes' where
  ids := h.ids.sublist (hs.map _)
  addresses := h.addresses.sublist (hs.map _)
  inside n hn := h.inside n (hs.subset hn)

lemma addressed_concat (h : Addressed cidr nodes) (hip : node.meshIP = peerIP nodes.length) :
    Addressed cidr (nodes ++ [node]) ↔ Room cidr nodes node.nodeID := by
  have hids := nodup_concat_iff (r := node) h.ids
  have haddresses := nodup_concat_iff (r := node) h.addresses
  have hinside : (∀ n ∈ nodes ++ [node], Inside cidr n.meshIP) ↔
      Inside cidr (peerIP nodes.length) := by
    rw [← hip]
    constructor
    · intro hall
      exact hall node (by simp)
    · intro hnode n hn
      rcases List.mem_append.mp hn with hn | hn
      · exact h.inside n hn
      · rwa [List.mem_singleton.mp hn]
  rw [inside_peerIP] at hinside
  rw [hip] at haddresses
  constructor
  · rintro ⟨hi, ha, hall⟩
    obtain ⟨hcount, hblock⟩ := hinside.mp hall
    exact ⟨hids.mp hi, haddresses.mp ha, hcount, hblock⟩
  · rintro ⟨hunused, hfree, hcount, hblock⟩
    exact ⟨hids.mpr hunused, haddresses.mpr hfree, hinside.mpr ⟨hcount, hblock⟩⟩

lemma addressed_joined (hm : m.Addressed) : (m.joined id nodeID key).Addressed ↔
    ∀ network, m.networks.lookup id = some network →
      Room network.cidr (m.nodesOf id) nodeID := by
  cases hn : m.networks.lookup id with
  | none =>
    rw [MeshStore.joined_of_none hn]
    exact iff_of_true hm (by simp)
  | some network =>
    have hnodes : ∀ id', (m.joined id nodeID key).nodesOf id' =
        if id' = id then m.nodesOf id ++ [peerNode id nodeID key (m.nodesOf id).length]
        else m.nodesOf id' := fun _ => MeshStore.nodesOf_joined (by simp [hn])
    have hconcat : Api.Addressed network.cidr
        (m.nodesOf id ++ [peerNode id nodeID key (m.nodesOf id).length]) ↔
          Room network.cidr (m.nodesOf id) nodeID := addressed_concat (hm id network hn) rfl
    simp only [Option.some.injEq, forall_eq', ← hconcat]
    constructor
    · intro hm'
      have hid := hm' id network (by rw [MeshStore.joined_networks, hn])
      rwa [hnodes, if_pos rfl] at hid
    · intro hid id' network' hn'
      rw [MeshStore.joined_networks] at hn'
      rw [hnodes]
      split_ifs with heq
      · subst heq
        obtain rfl := Option.some.inj (hn.symm.trans hn')
        exact hid
      · exact hm id' network' hn'

lemma addressed_create (hm : m.Addressed) : (m.create network).Addressed ↔
    ∀ n ∈ m.nodesOf network.id, Inside network.cidr n.meshIP := by
  have hlookup : ∀ id', (m.create network).networks.lookup id' =
      if id' = network.id then some network else m.networks.lookup id' := fun id' =>
    Table.lookup_insert _ _ _ _
  constructor
  · intro hm'
    exact (hm' network.id network (by rw [hlookup, if_pos rfl])).inside
  · intro hinside id' network' hn'
    rw [hlookup] at hn'
    split_ifs at hn' with heq
    · obtain rfl := Option.some.inj hn'
      subst heq
      change Api.Addressed _ (m.nodesOf network.id)
      cases hold : m.networks.lookup network.id with
      | none =>
        have hnil : m.nodesOf network.id = [] := by
          rw [MeshStore.nodesOf, (m.under _ hold).1]
          rfl
        rw [hnil]
        exact Addressed.nil
      | some old =>
        have hid := hm network.id old hold
        exact ⟨hid.ids, hid.addresses, hinside⟩
    · exact hm id' network' hn'

lemma addressed_delete (hm : m.Addressed) : (m.delete id).Addressed := by
  intro id' network' hn'
  simp only [MeshStore.delete, Table.lookup_erase] at hn'
  split_ifs at hn' with heq
  rw [MeshStore.nodesOf_delete, if_neg heq]
  exact hm id' network' hn'

lemma addressed_removeNode (hm : m.Addressed) :
    ((m.removeNode id nodeID).getD m).Addressed := by
  cases h : m.removeNode id nodeID with
  | none => exact hm
  | some m' =>
    obtain ⟨hnets, -, hnodes⟩ := MeshStore.removeNode_eq_some h
    intro id' network' hn'
    exact (hm id' network' (hnets ▸ hn')).sublist (hnodes id')

lemma addressed_createInvite {env : Env} {c : Caller} {s : Store} (hs : s.mesh.Addressed) :
    (handleCreateMeshInvite env c id s).2.mesh.Addressed := by
  rw [handleCreateInvite_mesh]
  split_ifs
  · exact hs
  · exact hs

end Addresses

lemma MeshStore.invited_singleton {order : Table.RangeOrder Bytes} {m : MeshStore} {id code : Bytes}
    (h : m.invites = (∅ : Table Bytes Bytes).insert id code) : m.invited order code = some id := by
  rw [MeshStore.invited, h, Table.RangeOrder.entries_singleton]
  simp

section Steps

variable {env : MeshEnv} {c : Caller} {s : Store} {id nodeID : Bytes} {body : Option Json}

lemma mesh_join (hs : s.mesh.Addressed) :
    (handleJoinMeshNetwork env c body s).2.mesh.Addressed ↔
      MeshAction.Allowed s ⟨env, c, .join body⟩ := by
  rw [handleJoin_mesh]
  simp only [MeshAction.Allowed]
  by_cases hcode : decodedString (ascii "invite_code") body = []
  · simp [hcode, hs]
  · rw [if_neg hcode]
    cases s.mesh.invited env.order (decodedString (ascii "invite_code") body) with
    | none => simp [hs]
    | some id => simp [hcode, addressed_joined hs]

lemma mesh_step (a : MeshAction) (hs : s.mesh.Addressed) :
    (handleMesh a.env a.caller s a.request).2.mesh.Addressed ↔ a.Allowed s := by
  obtain ⟨env, c, request⟩ := a
  cases request with
  | list => exact iff_of_true hs trivial
  | create body => exact addressed_create hs
  | join body => exact mesh_join hs
  | joinByNetworkID id body =>
    simp only [handleMesh, handleJoinByNetworkID_mesh]
    exact addressed_joined hs
  | get id => exact iff_of_true hs trivial
  | delete id =>
    simp only [handleMesh, handleDelete_mesh]
    exact iff_of_true (addressed_delete hs) trivial
  | createInvite id => exact iff_of_true (addressed_createInvite hs) trivial
  | removeNode id nodeID =>
    simp only [handleMesh, handleRemoveNode_mesh]
    exact iff_of_true (addressed_removeNode hs) trivial

end Steps

def Store.started (s : Store) : Store := { s with mesh := .empty }

theorem mesh_addressed_iff (s : Store) (acts : List MeshAction) :
    Always MeshAction.step (fun s => s.mesh.Addressed) s.started acts ↔
      Guarded MeshAction.step (fun s a => a.Allowed s) s.started acts := by
  apply always_iff_guarded_of_step
  · intro id network hn
    cases hn
  · intro s a t hs ht
    obtain rfl := Option.some.inj ht
    exact mesh_step a hs

section Runs

def meshEnv (uuidStr : String) : MeshEnv where
  available := true
  uuidIn := some
  inserts := fun _ => true
  now := 0
  formatTime := fun _ => []
  uuidStr := ascii uuidStr
  keyBytes := List.replicate 32 0
  order := .byCode

def member : Caller := ⟨ascii "org", ascii "user", ascii "10.0.0.1"⟩

def createPrivate : MeshAction where
  env := meshEnv "aaaaaaaa-0000"
  caller := member
  request := .create (some (jsonObj [("cidr", .str (ascii "192.168.1.0/24"))]))

def invitePrivate : MeshAction where
  env := meshEnv "bbbbbbbb-0000"
  caller := member
  request := .createInvite (ascii "mesh-aaaaaaaa")

def joinPrivate : MeshAction where
  env := meshEnv "cccccccc-0000"
  caller := member
  request := .join (some (jsonObj [("invite_code", .str (ascii "minv-bbbbbbbb-000"))]))

def privateNetwork : MeshNetworkRecord :=
  ⟨ascii "mesh-aaaaaaaa", ascii "default-mesh", ascii "192.168.1.0/24", ascii "org", 0⟩

theorem mesh_addressed_fails :
    ¬ Always MeshAction.step (fun s => s.mesh.Addressed) Store.empty.started
      [createPrivate, invitePrivate, joinPrivate] := by
  intro h
  have hinvited := (h.2 _ rfl).2 _ rfl
  have hroom := (mesh_step joinPrivate hinvited.head).mp (hinvited.2 _ rfl).head
  obtain ⟨-, -, -, hinside⟩ := hroom (by decide) _
    (MeshStore.invited_singleton rfl) privateNetwork rfl
  revert hinside
  decide

end Runs

end OmniTun.Api
