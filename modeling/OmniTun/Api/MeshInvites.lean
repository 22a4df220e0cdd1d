import OmniTun.Api.MeshAddresses

/-! On whose behalf nodes are added to mesh networks, and what invite code was presented for it. -/

namespace OmniTun.Api

open OmniTun.Foundation Transition

/-- The store with the times at which the codes that its networks now have were made. -/
structure MeshWorld where
  store : Store
  issuedAt : Bytes → Option ℤ

def MeshWorld.started (s : Store) : MeshWorld := ⟨s.started, fun _ => none⟩

namespace MeshAction

def issue (a : MeshAction) (w : MeshWorld) : Bytes → Option ℤ :=
  match a.request with
  | .createInvite id =>
    if w.store.mesh.networks.lookup id = none then w.issuedAt
    else Function.update w.issuedAt id (some a.env.now)
  | .delete id => Function.update w.issuedAt id none
  | _ => w.issuedAt

def stepWorld (w : MeshWorld) (a : MeshAction) : Option MeshWorld :=
  some ⟨(handleMesh a.env a.caller w.store a.request).2, a.issue w⟩

def presented (a : MeshAction) : Option Bytes :=
  match a.request with
  | .join body | .joinByNetworkID _ body => some (decodedString (ascii "invite_code") body)
  | _ => none

end MeshAction

def Adds (s s' : Store) (id : Bytes) : Prop :=
  ∃ node, s'.mesh.nodesOf id = s.mesh.nodesOf id ++ [node]

def MeshWorld.Fresh (w : MeshWorld) (id : Bytes) (now : ℤ) : Prop :=
  ∃ t, w.issuedAt id = some t ∧ now ≤ t + 3600 * 10 ^ 9

def MeshWorld.Issued (w : MeshWorld) : Prop :=
  ∀ id, w.issuedAt id = none ↔ w.store.mesh.invites.lookup id = none

/-- A node that a step adds for a caller of another organisation is added under the network's
current code. -/
def Authorized (w : MeshWorld) (a : MeshAction) : Prop :=
  ∀ id network, w.store.mesh.networks.lookup id = some network →
    Adds w.store (handleMesh a.env a.caller w.store a.request).2 id →
      network.orgID = a.caller.orgID ∨
        ∃ code, w.store.mesh.invites.lookup id = some code ∧ a.presented = some code ∧
          w.Fresh id a.env.now

namespace MeshAction

def Invited (w : MeshWorld) (a : MeshAction) : Prop :=
  match a.request with
  | .join body =>
    decodedString (ascii "invite_code") body ≠ [] →
      ∀ id, w.store.mesh.invited a.env.order (decodedString (ascii "invite_code") body) = some id →
        ∀ network, w.store.mesh.networks.lookup id = some network →
          network.orgID = a.caller.orgID ∨ w.Fresh id a.env.now
  | .joinByNetworkID id body => ∀ network, w.store.mesh.networks.lookup id = some network →
      network.orgID = a.caller.orgID ∨
        w.store.mesh.invites.lookup id = some (decodedString (ascii "invite_code") body) ∧
          w.Fresh id a.env.now
  | _ => True

end MeshAction

section Steps

variable {env : MeshEnv} {c : Caller} {s s' : Store} {m m' : MeshStore} {w : MeshWorld}
  {id id' nodeID key code : Bytes} {network : MeshNetworkRecord} {body : Option Json}

lemma not_adds_of_length (h : (s'.mesh.nodesOf id).length ≤ (s.mesh.nodesOf id).length) :
    ¬ Adds s s' id := by
  rintro ⟨node, hnode⟩
  have hlength := congrArg List.length hnode
  rw [List.length_append, List.length_singleton] at hlength
  omega

lemma adds_joined (hs' : s'.mesh = s.mesh.joined id nodeID key) :
    Adds s s' id' ↔ id' = id ∧ s.mesh.networks.lookup id ≠ none := by
  cases hn : s.mesh.networks.lookup id with
  | none =>
    rw [MeshStore.joined_of_none hn] at hs'
    have hunchanged : ¬ Adds s s' id' := not_adds_of_length (by rw [hs'])
    exact iff_of_false hunchanged (by simp)
  | some network =>
    rw [Adds, hs', MeshStore.nodesOf_joined (by simp [hn])]
    split_ifs with heq
    · subst heq
      exact iff_of_true ⟨_, rfl⟩ (by simp)
    · have hself : ¬ Adds s s id' := not_adds_of_length le_rfl
      exact iff_of_false hself (by simp [heq])

lemma invited_eq_some {order : Table.RangeOrder Bytes} (h : m.invited order code = some id) :
    m.invites.lookup id = some code := by
  obtain ⟨⟨id', code'⟩, hfind, rfl⟩ := Option.map_eq_some_iff.mp h
  have hcode := List.find?_some hfind
  have hmem := (order.mem_entries m.invites _ _).mp (List.mem_of_find?_eq_some hfind)
  simp only [decide_eq_true_eq] at hcode
  rw [hmem, hcode]

lemma authorized_of_not_adds {a : MeshAction}
    (h : ∀ id, ¬ Adds w.store (handleMesh a.env a.caller w.store a.request).2 id) :
    Authorized w a :=
  fun id _ _ hadds => absurd hadds (h id)

lemma authorized_of_mesh {a : MeshAction}
    (h : (handleMesh a.env a.caller w.store a.request).2.mesh = w.store.mesh) : Authorized w a :=
  authorized_of_not_adds fun _ => not_adds_of_length (by rw [h])

lemma authorized_joined {a : MeshAction}
    (hmesh : (handleMesh a.env a.caller w.store a.request).2.mesh =
      w.store.mesh.joined id nodeID key) :
    Authorized w a ↔ ∀ network, w.store.mesh.networks.lookup id = some network →
      network.orgID = a.caller.orgID ∨
        ∃ code, w.store.mesh.invites.lookup id = some code ∧ a.presented = some code ∧
          w.Fresh id a.env.now := by
  constructor
  · intro hall network hn
    exact hall id network hn ((adds_joined hmesh).mpr ⟨rfl, by simp [hn]⟩)
  · intro hid id' network hn hadds
    obtain ⟨rfl, -⟩ := (adds_joined hmesh).mp hadds
    exact hid network hn

lemma authorized_join_iff :
    Authorized w ⟨env, c, .join body⟩ ↔ MeshAction.Invited w ⟨env, c, .join body⟩ := by
  have hmesh : (handleMesh env c w.store (.join body)).2.mesh = _ := handleJoin_mesh
  simp only [MeshAction.Invited]
  by_cases hcode : decodedString (ascii "invite_code") body = []
  · rw [if_pos hcode] at hmesh
    exact iff_of_true (authorized_of_mesh hmesh) fun h => absurd hcode h
  · rw [if_neg hcode] at hmesh
    cases hid : w.store.mesh.invited env.order (decodedString (ascii "invite_code") body) with
    | none =>
      rw [hid] at hmesh
      exact iff_of_true (authorized_of_mesh hmesh) (by simp)
    | some id =>
      rw [hid] at hmesh
      rw [authorized_joined hmesh]
      simp [hcode, MeshAction.presented, invited_eq_some hid]

lemma authorized_joinByNetworkID_iff : Authorized w ⟨env, c, .joinByNetworkID id body⟩ ↔
    MeshAction.Invited w ⟨env, c, .joinByNetworkID id body⟩ := by
  have hmesh : (handleMesh env c w.store (.joinByNetworkID id body)).2.mesh = _ :=
    handleJoinByNetworkID_mesh
  rw [authorized_joined hmesh]
  simp only [MeshAction.Invited, MeshAction.presented, Option.some.injEq]
  refine forall₂_congr fun network _ => or_congr_right ?_
  constructor
  · rintro ⟨code, hcode, rfl, hfresh⟩
    exact ⟨hcode, hfresh⟩
  · rintro ⟨hcode, hfresh⟩
    exact ⟨_, hcode, rfl, hfresh⟩

lemma length_delete_le :
    ((handleDeleteMeshNetwork env.toEnv c id s).2.mesh.nodesOf id').length ≤
      (s.mesh.nodesOf id').length := by
  rw [handleDelete_mesh, MeshStore.nodesOf_delete]
  split_ifs
  · exact Nat.zero_le _
  · exact le_rfl

lemma length_createInvite_le :
    ((handleCreateMeshInvite env.toEnv c id s).2.mesh.nodesOf id').length ≤
      (s.mesh.nodesOf id').length := by
  rw [handleCreateInvite_mesh]
  split_ifs
  · exact le_rfl
  · exact le_rfl

lemma length_removeNode_le :
    ((handleRemoveMeshNode env.toEnv c id nodeID s).2.mesh.nodesOf id').length ≤
      (s.mesh.nodesOf id').length := by
  rw [handleRemoveNode_mesh]
  cases hr : s.mesh.removeNode id nodeID with
  | none => exact le_rfl
  | some mesh => exact ((MeshStore.removeNode_eq_some hr).2.2 id').length_le

lemma authorized_iff (w : MeshWorld) (a : MeshAction) : Authorized w a ↔ a.Invited w := by
  obtain ⟨env, c, request⟩ := a
  have hshrinks : (∀ id', ((handleMesh env c w.store request).2.mesh.nodesOf id').length ≤
      (w.store.mesh.nodesOf id').length) → Authorized w ⟨env, c, request⟩ := fun h =>
    authorized_of_not_adds fun id' => not_adds_of_length (h id')
  cases request with
  | join body => exact authorized_join_iff
  | joinByNetworkID id body => exact authorized_joinByNetworkID_iff
  | list => exact iff_of_true (hshrinks fun _ => le_rfl) trivial
  | create body => exact iff_of_true (hshrinks fun _ => le_rfl) trivial
  | get id => exact iff_of_true (hshrinks fun _ => le_rfl) trivial
  | delete id => exact iff_of_true (hshrinks fun _ => length_delete_le) trivial
  | createInvite id => exact iff_of_true (hshrinks fun _ => length_createInvite_le) trivial
  | removeNode id nodeID => exact iff_of_true (hshrinks fun _ => length_removeNode_le) trivial

lemma invites_join : (handleJoinMeshNetwork env c body s).2.mesh.invites = s.mesh.invites := by
  rw [handleJoin_mesh]
  split_ifs
  · rfl
  · cases s.mesh.invited env.order (decodedString (ascii "invite_code") body) with
    | none => rfl
    | some id => exact MeshStore.joined_invites

lemma invites_removeNode :
    (handleRemoveMeshNode env.toEnv c id nodeID s).2.mesh.invites = s.mesh.invites := by
  rw [handleRemoveNode_mesh]
  cases hr : s.mesh.removeNode id nodeID with
  | none => rfl
  | some mesh => exact (MeshStore.removeNode_eq_some hr).2.1

lemma issued_always (s : Store) (acts : List MeshAction) :
    Always MeshAction.stepWorld MeshWorld.Issued (.started s) acts := by
  apply always_invariant
  · exact fun id => iff_of_true rfl rfl
  · intro w a t hw ht id
    obtain rfl := Option.some.inj ht
    obtain ⟨env, c, request⟩ := a
    cases request with
    | list => exact hw id
    | create body => exact hw id
    | get id' => exact hw id
    | join body => simpa only [handleMesh, MeshAction.issue, invites_join] using hw id
    | joinByNetworkID id' body =>
      simpa only [handleMesh, MeshAction.issue, handleJoinByNetworkID_mesh,
        MeshStore.joined_invites] using hw id
    | removeNode id' nodeID =>
      simpa only [handleMesh, MeshAction.issue, invites_removeNode] using hw id
    | delete id' =>
      simp only [handleMesh, handleDelete_mesh, MeshStore.delete, Table.lookup_erase,
        MeshAction.issue, Function.update_apply]
      split_ifs
      · exact iff_of_true rfl rfl
      · exact hw id
    | createInvite id' =>
      simp only [handleMesh, handleCreateInvite_mesh, MeshAction.issue]
      split_ifs with hn
      · exact hw id
      · simp only [MeshStore.setInvite, Table.lookup_insert, Function.update_apply]
        split_ifs
        · simp
        · exact hw id

end Steps

theorem mesh_authorized_iff (s : Store) (acts : List MeshAction) :
    Guarded MeshAction.stepWorld Authorized (.started s) acts ↔
      Guarded MeshAction.stepWorld (fun w a => a.Invited w) (.started s) acts :=
  guarded_congr authorized_iff

section Runs

def createShared : MeshAction := ⟨meshEnv "aaaaaaaa-0000", member, .create none⟩

def inviteShared : MeshAction :=
  ⟨meshEnv "bbbbbbbb-0000", member, .createInvite (ascii "mesh-aaaaaaaa")⟩

def joinLate : MeshAction where
  env := { meshEnv "cccccccc-0000" with now := 3601 * 10 ^ 9 }
  caller := ⟨ascii "other", ascii "guest", ascii "10.0.0.2"⟩
  request := .join (some (jsonObj [("invite_code", .str (ascii "minv-bbbbbbbb-000"))]))

def sharedNetwork : MeshNetworkRecord :=
  ⟨ascii "mesh-aaaaaaaa", ascii "default-mesh", ascii "10.42.0.0/16", ascii "org", 0⟩

theorem mesh_authorized_fails :
    ¬ Guarded MeshAction.stepWorld Authorized (.started .empty)
      [createShared, inviteShared, joinLate] := by
  intro h
  have hjoin := ((((h _ rfl).2 _ rfl).2) _ rfl).1
  have hinvited := (authorized_iff _ joinLate).mp hjoin
  rcases hinvited (by decide) _ (MeshStore.invited_singleton rfl) sharedNetwork rfl with
    horg | ⟨t, ht, hnow⟩
  · revert horg
    decide
  · obtain rfl := Option.some.inj ht
    revert hnow
    decide

end Runs

end OmniTun.Api
