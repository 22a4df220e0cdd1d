import OmniTun.Api.RowIsolation

/-! What the handlers of mesh networks read and change of the networks of other organisations. -/

namespace OmniTun.Api

open OmniTun.Foundation OwnedRows

section Mesh

variable {env : Env} {c : Caller} {s s' : Store} {m m' : MeshStore} {orgID o id : Bytes}

lemma MeshStore.owned_congr (hother : ∀ id', id' ≠ id → m'.entry id' = m.entry id')
    (hid : m'.owned o id = m.owned o id) : m'.owned o = m.owned o := by
  funext id'
  by_cases h : id' = id
  · rw [h, hid]
  · rw [MeshStore.owned, MeshStore.owned, hother id' h]

lemma MeshStore.owned_eq_none (h : ∀ n, m.networks.lookup id = some n → n.orgID ≠ o) :
    m.owned o id = none := by
  rw [MeshStore.owned, MeshStore.entry]
  cases hn : m.networks.lookup id with
  | none => rfl
  | some n => simp [h n hn]

lemma untouched_mesh (hother : ∀ id', id' ≠ id → m.entry id' = s.mesh.entry id')
    (hm : ∀ n, m.networks.lookup id = some n → n.orgID = orgID)
    (hs : ∀ n, s.mesh.networks.lookup id = some n → n.orgID = orgID) :
    Untouched orgID s { s with mesh := m } := by
  intro o ho
  apply rows_mesh
  apply MeshStore.owned_congr hother
  rw [MeshStore.owned_eq_none fun n hn => hm n hn ▸ ho.symm,
    MeshStore.owned_eq_none fun n hn => hs n hn ▸ ho.symm]

lemma MeshStore.entry_delete {id' : Bytes} (h : id' ≠ id) : (m.delete id).entry id' = m.entry id' := by
  simp only [MeshStore.entry, MeshStore.nodesOf, MeshStore.delete, Table.lookup_erase, if_neg h]

lemma MeshStore.entry_setInvite {id' code : Bytes} (hn : m.networks.lookup id ≠ none)
    (h : id' ≠ id) : (m.setInvite id code hn).entry id' = m.entry id' := by
  simp only [MeshStore.entry, MeshStore.nodesOf, MeshStore.setInvite, Table.lookup_insert, if_neg h]

lemma MeshStore.entry_setNodes {id' : Bytes} {nodes : List MeshNodeRecord}
    (hn : m.networks.lookup id ≠ none) (h : id' ≠ id) :
    (m.setNodes id nodes hn).entry id' = m.entry id' := by
  simp only [MeshStore.entry, MeshStore.nodesOf, MeshStore.setNodes, Table.lookup_insert, if_neg h]

def MeshStore.place (orgID id nodeID : Bytes) (m : MeshStore) : MeshStore where
  networks := m.networks.insert id ⟨id, [], [], orgID, 0⟩
  nodes := m.nodes.insert id [⟨nodeID, id, [], [], [], [], []⟩]
  invites := m.invites
  under id' h := by
    rw [Table.lookup_insert] at h
    split_ifs at h with hid
    exact ⟨Table.lookup_insert_eq_none (m.under id' h).1 hid, (m.under id' h).2⟩

lemma MeshStore.entry_place {id' nodeID : Bytes} (h : id' ≠ id) :
    (m.place o id nodeID).entry id' = m.entry id' := by
  simp only [MeshStore.entry, MeshStore.nodesOf, MeshStore.place, Table.lookup_insert, if_neg h]

lemma rows_delete (h : ∀ n, s.mesh.networks.lookup id = some n → n.orgID ≠ orgID) :
    { s with mesh := s.mesh.delete id }.rows orgID = s.rows orgID := by
  apply rows_mesh
  apply MeshStore.owned_congr fun id' h => MeshStore.entry_delete h
  rw [MeshStore.owned_eq_none h, MeshStore.owned_eq_none]
  intro n hn
  simp [MeshStore.delete] at hn

lemma rows_place (nodeID : Bytes) (h : ∀ n, s.mesh.networks.lookup id = some n → n.orgID ≠ orgID) :
    { s with mesh := s.mesh.place (anotherOrg orgID) id nodeID }.rows orgID = s.rows orgID := by
  apply rows_mesh
  apply MeshStore.owned_congr fun id' h => MeshStore.entry_place h
  rw [MeshStore.owned_eq_none h, MeshStore.owned_eq_none]
  intro n hn
  simp only [MeshStore.place, Table.lookup_insert, if_true, Option.some.injEq] at hn
  rw [← hn]
  exact anotherOrg_ne orgID

lemma entry_of_owned (hrows : s'.rows orgID = s.rows orgID)
    (h : ∃ n, s.mesh.networks.lookup id = some n ∧ n.orgID = orgID) :
    s'.mesh.entry id = s.mesh.entry id := by
  obtain ⟨n, hn, ho⟩ := h
  have hentry : s.mesh.entry id = some (n, s.mesh.nodesOf id, s.mesh.invites.lookup id) := by
    rw [MeshStore.entry, hn]
    rfl
  have howned : s'.mesh.owned orgID id = some (n, s.mesh.nodesOf id, s.mesh.invites.lookup id) := by
    refine (congrFun (congrArg Rows.networks hrows) id).trans ?_
    change (s.mesh.entry id).filter _ = _
    rw [hentry]
    simp [ho]
  rw [hentry]
  exact (Option.filter_eq_some_iff.mp howned).1

lemma network_eq_of_entry (h : m'.entry id = m.entry id) :
    m'.networks.lookup id = m.networks.lookup id ∧ m'.nodesOf id = m.nodesOf id := by
  rw [MeshStore.entry, MeshStore.entry] at h
  cases hn : m.networks.lookup id with
  | none =>
    rw [hn, Option.map_none, Option.map_eq_none_iff] at h
    refine ⟨h, ?_⟩
    rw [MeshStore.nodesOf, MeshStore.nodesOf, (m.under id hn).1, (m'.under id h).1]
  | some n =>
    rw [hn, Option.map_some, Option.map_eq_some_iff] at h
    obtain ⟨n', hn', heq⟩ := h
    simp only [Prod.mk.injEq] at heq
    exact ⟨by rw [hn', heq.1], heq.2.1⟩

lemma mesh_isolated (nodeID : Bytes) {step : Store → Response × Store}
    (hanswer : ∀ s s', s'.mesh.networks.lookup id = s.mesh.networks.lookup id →
      s'.mesh.nodesOf id = s.mesh.nodesOf id → (step s').1 = (step s).1)
    (hmissing : ∀ s, s.mesh.networks.lookup id = none → (step s).1.status = 404)
    (hplaced : ∀ s : Store,
      (step { s with mesh := s.mesh.place (anotherOrg orgID) id nodeID }).1.status ≠ 404)
    (hwrites : ∀ s, (∀ n, s.mesh.networks.lookup id = some n → n.orgID = orgID) →
      Untouched orgID s (step s).2) :
    Isolated (fun o s => s.rows o) step orgID s ↔
      ∃ n, s.mesh.networks.lookup id = some n ∧ n.orgID = orgID := by
  constructor
  · intro h
    by_contra hnot
    push Not at hnot
    -- without a network of the id the answer is a 404, and with another organisation's it is not
    apply not_isolated (rows_delete hnot) (rows_place nodeID hnot) _ h
    intro heq
    apply hplaced s
    rw [← heq]
    exact hmissing _ (Finmap.lookup_erase id _)
  · rintro ⟨n, hn, ho⟩
    constructor
    · intro s' hrows
      obtain ⟨hnet, hnodes⟩ := network_eq_of_entry (entry_of_owned hrows ⟨n, hn, ho⟩)
      exact hanswer s s' hnet hnodes
    · apply hwrites s
      rintro n' hn'
      obtain rfl := Option.some.inj (hn.symm.trans hn')
      exact ho

lemma lookup_place {nodeID : Bytes} :
    (m.place o id nodeID).networks.lookup id = some ⟨id, [], [], o, 0⟩ :=
  Finmap.lookup_insert _

lemma getMeshNetwork_isolated :
    Isolated (fun o s => s.rows o) (fun s => (handleGetMeshNetwork id s, s)) orgID s ↔
      ∃ n, s.mesh.networks.lookup id = some n ∧ n.orgID = orgID := by
  apply mesh_isolated []
  · intro s s' hnet hnodes
    simp only [handleGetMeshNetwork, hnet, hnodes]
  · intro s h
    simp only [handleGetMeshNetwork, h]
    rfl
  · intro s
    simp [handleGetMeshNetwork, lookup_place]
  · intro s _
    exact untouched_refl

lemma deleteMeshNetwork_isolated :
    Isolated (fun o s => s.rows o) (handleDeleteMeshNetwork env c id) c.orgID s ↔
      ∃ n, s.mesh.networks.lookup id = some n ∧ n.orgID = c.orgID := by
  apply mesh_isolated []
  · intro s s' hnet _
    simp only [handleDeleteMeshNetwork, hnet]
    cases s.mesh.networks.lookup id <;> rfl
  · intro s h
    simp only [handleDeleteMeshNetwork, h]
    rfl
  · intro s
    simp [handleDeleteMeshNetwork, lookup_place, respondMessage]
  · intro s hs
    have hdelete : Untouched c.orgID s { s with mesh := s.mesh.delete id } := by
      apply untouched_mesh (fun id' h => MeshStore.entry_delete h) _ hs
      intro n hn
      simp [MeshStore.delete] at hn
    rw [handleDeleteMeshNetwork]
    cases s.mesh.networks.lookup id with
    | none => exact hdelete
    | some _ => exact untouched_log.mpr hdelete

lemma createMeshInvite_isolated :
    Isolated (fun o s => s.rows o) (handleCreateMeshInvite env c id) c.orgID s ↔
      ∃ n, s.mesh.networks.lookup id = some n ∧ n.orgID = c.orgID := by
  apply mesh_isolated []
  · intro s s' hnet _
    simp only [handleCreateMeshInvite, hnet]
    split_ifs <;> rfl
  · intro s h
    simp only [handleCreateMeshInvite, dif_pos h]
    rfl
  · intro s
    simp [handleCreateMeshInvite, lookup_place]
  · intro s hs
    rw [handleCreateMeshInvite]
    split_ifs with h
    · exact untouched_refl
    · apply untouched_log.mpr
      exact untouched_mesh (fun id' hne => MeshStore.entry_setInvite h hne) hs hs

lemma removeMeshNode_isolated {nodeID : Bytes} :
    Isolated (fun o s => s.rows o) (handleRemoveMeshNode env c id nodeID) c.orgID s ↔
      ∃ n, s.mesh.networks.lookup id = some n ∧ n.orgID = c.orgID := by
  apply mesh_isolated nodeID
  · intro s s' _ hnodes
    simp only [handleRemoveMeshNode, MeshStore.removeNode, hnodes]
    split_ifs <;> rfl
  · intro s h
    have hnodes : s.mesh.nodesOf id = [] := by
      rw [MeshStore.nodesOf, (s.mesh.under id h).1]
      rfl
    simp [handleRemoveMeshNode, MeshStore.removeNode, hnodes, respondError]
  · intro s
    have hnode : ∃ n ∈ (s.mesh.place (anotherOrg c.orgID) id nodeID).nodesOf id,
        n.nodeID = nodeID := by
      refine ⟨⟨nodeID, id, [], [], [], [], []⟩, ?_, rfl⟩
      simp [MeshStore.nodesOf, MeshStore.place]
    simp [handleRemoveMeshNode, MeshStore.removeNode, dif_pos hnode, respondMessage]
  · intro s hs
    rw [handleRemoveMeshNode, MeshStore.removeNode]
    split_ifs with h
    · apply untouched_log.mpr
      exact untouched_mesh (fun id' hne => MeshStore.entry_setNodes _ hne) hs hs
    · exact untouched_refl

end Mesh

end OmniTun.Api
