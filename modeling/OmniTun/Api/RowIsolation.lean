import OmniTun.Api.Handlers

/-! What the handlers of tunnels and API keys read and change of the rows of other organisations. -/

namespace OmniTun.Api

open OmniTun.Foundation OwnedRows

section Rows

variable {env : Env} {s : Store} {o u : Bytes}

lemma rows_log {e : AuditEvent} (h : o ≠ e.orgID) : (s.log env e).rows o = s.rows o := by
  rw [Store.log]
  split_ifs
  · simp only [Store.rows, owned, List.filter_append, Rows.mk.injEq, true_and]
    rw [List.filter_singleton, decide_eq_false (Ne.symm h)]
    exact List.append_nil _
  · rfl

lemma rows_mesh {m : MeshStore} (h : m.owned o = s.mesh.owned o) :
    { s with mesh := m }.rows o = s.rows o := by
  simp only [Store.rows, h]

lemma rows_updateTunnel {f : TunnelRow → TunnelRow} (hf : ∀ t, (f t).id = t.id) :
    (s.updateTunnel u f hf).rows o = s.rows o ↔
      owned TunnelRow.organizationID o (update TunnelRow.id u f s.tunnels) =
        owned TunnelRow.organizationID o s.tunnels := by
  simp only [Store.rows, Store.updateTunnel, Rows.mk.injEq, and_true]

lemma rows_updateAPIKey {f : APIKeyRow → APIKeyRow} (hf : ∀ k, (f k).id = k.id) :
    (s.updateAPIKey u f hf).rows o = s.rows o ↔
      owned APIKeyRow.organizationID o (update APIKeyRow.id u f s.apiKeys) =
        owned APIKeyRow.organizationID o s.apiKeys := by
  simp only [Store.rows, Store.updateAPIKey, Rows.mk.injEq, and_true, true_and]

def anotherOrg (orgID : Bytes) : Bytes := 0 :: orgID

lemma anotherOrg_ne (orgID : Bytes) : anotherOrg orgID ≠ orgID := List.cons_ne_self _ _

end Rows

section Tunnels

variable {env : Env} {c : Caller} {s s' : Store} {orgID id u : Bytes}

lemma selectTunnel_of_owned {t : TunnelRow} (hrows : s'.rows orgID = s.rows orgID)
    (ht : t ∈ s.tunnels) (hu : env.uuidIn id = some t.id) (ho : t.organizationID = orgID) :
    selectTunnel env id s' = selectTunnel env id s := by
  have ht' : t ∈ s'.tunnels := mem_of_owned_eq (congrArg Rows.tunnels hrows) ht ho
  have hid : ∀ t' : TunnelRow, decide (t'.id = t.id ∧ t'.deletedAt = none) = true → t'.id = t.id :=
    fun t' h => (of_decide_eq_true h).1
  rw [selectTunnel, selectTunnel, hu, Option.bind_some, Option.bind_some,
    find_of_mem s.tunnels_keyed ht hid, find_of_mem s'.tunnels_keyed ht' hid]

def removeTunnel (u : Bytes) (s : Store) : Store :=
  { s with
    tunnels := remove TunnelRow.id u s.tunnels
    tunnels_keyed := nodup_remove s.tunnels_keyed }

def blankTunnel (orgID u : Bytes) : TunnelRow :=
  ⟨u, orgID, [], [], [], 0, none, [], 0, 0, 0, none⟩

def placeTunnel (orgID u : Bytes) (s : Store) : Store :=
  { s with
    tunnels := blankTunnel orgID u :: remove TunnelRow.id u s.tunnels
    tunnels_keyed := List.nodup_cons.mpr ⟨not_mem_keys_remove, nodup_remove s.tunnels_keyed⟩ }

lemma rows_removeTunnel (h : ∀ t ∈ s.tunnels, t.id = u → t.organizationID ≠ orgID) :
    (removeTunnel u s).rows orgID = s.rows orgID := by
  simp only [Store.rows, removeTunnel, owned_remove h]

lemma rows_placeTunnel (h : ∀ t ∈ s.tunnels, t.id = u → t.organizationID ≠ orgID) :
    (placeTunnel (anotherOrg orgID) u s).rows orgID = s.rows orgID := by
  have hne : (blankTunnel (anotherOrg orgID) u).organizationID ≠ orgID := anotherOrg_ne orgID
  simp only [Store.rows, placeTunnel, owned_cons_of_ne hne, owned_remove h]

lemma handleGetTunnel_missing (h : selectTunnel env id s = none) :
    (handleGetTunnel env id s).status = 404 := by
  rw [handleGetTunnel, h]
  rfl

lemma handleGetTunnel_found {t : TunnelRow} (h : selectTunnel env id s = some t) :
    (handleGetTunnel env id s).status = 200 := by
  rw [handleGetTunnel, h]

lemma selectTunnel_removeTunnel (hu : env.uuidIn id = some u) :
    selectTunnel env id (removeTunnel u s) = none := by
  rw [selectTunnel, hu]
  split_ifs
  · apply List.find?_eq_none.mpr
    intro t ht h
    simp only [decide_eq_true_eq] at h
    exact not_mem_keys_remove (List.mem_map.mpr ⟨t, ht, h.1⟩)
  · rfl

lemma selectTunnel_placeTunnel (ha : env.available = true) (hu : env.uuidIn id = some u) :
    selectTunnel env id (placeTunnel orgID u s) = some (blankTunnel orgID u) := by
  rw [selectTunnel, hu, if_pos ha, Option.bind_some]
  exact List.find?_cons_of_pos (by simp [blankTunnel])

lemma getTunnel_isolated :
    Isolated (fun o s => s.rows o) (fun s => (handleGetTunnel env id s, s)) orgID s ↔
      (env.available → ∀ u, env.uuidIn id = some u →
        ∃ t ∈ s.tunnels, t.id = u ∧ t.organizationID = orgID) := by
  constructor
  · intro h ha u hu
    by_contra hnot
    push Not at hnot
    -- the caller cannot tell a store without the tunnel from one where it is another's
    apply not_isolated (rows_removeTunnel hnot) (rows_placeTunnel hnot) _ h
    intro heq
    have hstatus := congrArg Response.status heq
    rw [handleGetTunnel_missing (selectTunnel_removeTunnel hu),
      handleGetTunnel_found (selectTunnel_placeTunnel ha hu)] at hstatus
    cases hstatus
  · intro h
    apply (isolated_iff_of_unchanged rfl).mpr
    intro s' hrows
    have hselect : selectTunnel env id s' = selectTunnel env id s := by
      cases ha : env.available with
      | false => simp only [selectTunnel, ha, Bool.false_eq_true, if_false]
      | true =>
        cases hu : env.uuidIn id with
        | none => simp only [selectTunnel, hu, Option.bind_none]
        | some u =>
          obtain ⟨t, ht, rfl, ho⟩ := h ha u hu
          exact selectTunnel_of_owned hrows ht hu ho
    simp only [handleGetTunnel, hselect]

end Tunnels

def Untouched (orgID : Bytes) (s s' : Store) : Prop := ∀ o, o ≠ orgID → s'.rows o = s.rows o

section Writes

variable {env : Env} {c : Caller} {s s' : Store} {orgID id u : Bytes}

lemma untouched_refl : Untouched orgID s s := fun _ _ => rfl

lemma untouched_ite {p : Prop} [Decidable p] :
    Untouched orgID s (if p then s' else s) ↔ (p → Untouched orgID s s') := by
  split_ifs with h
  · simp [h]
  · simp [h, untouched_refl]

lemma untouched_log {action resourceType : String} :
    Untouched c.orgID s (s'.log env (auditEvent c action resourceType id)) ↔
      Untouched c.orgID s s' := by
  apply forall₂_congr
  intro o ho
  rw [rows_log ho]

lemma untouched_updateTunnel {f : TunnelRow → TunnelRow} (hf : ∀ t, (f t).id = t.id)
    (ho : ∀ t, (f t).organizationID = t.organizationID) :
    Untouched orgID s (s.updateTunnel u f hf) ↔
      ∀ t ∈ s.tunnels, t.id = u → t.organizationID = orgID ∨ f t = t := by
  rw [← others_update_iff ho]
  exact forall₂_congr fun o _ => rows_updateTunnel hf

lemma untouched_updateAPIKey {f : APIKeyRow → APIKeyRow} (hf : ∀ k, (f k).id = k.id)
    (ho : ∀ k, (f k).organizationID = k.organizationID) :
    Untouched orgID s (s.updateAPIKey u f hf) ↔
      ∀ k ∈ s.apiKeys, k.id = u → k.organizationID = orgID ∨ f k = k := by
  rw [← others_update_iff ho]
  exact forall₂_congr fun o _ => rows_updateAPIKey hf

lemma setName_eq_self {t : TunnelRow} {name : Bytes} : t.setName name = t ↔ t.name = name := by
  cases t
  simp [TunnelRow.setName, eq_comm]

lemma setDeletedAt_eq_self {t : TunnelRow} {now : ℤ} :
    t.setDeletedAt now = t ↔ t.deletedAt = some now := by
  cases t
  simp [TunnelRow.setDeletedAt, eq_comm]

lemma setRevokedAt_eq_self {k : APIKeyRow} {now : ℤ} :
    k.setRevokedAt now = k ↔ k.revokedAt = some now := by
  cases k
  simp [APIKeyRow.setRevokedAt, eq_comm]

lemma untouched_statement {p : Prop} [Decidable p] {found : Option Bytes} {write : Bytes → Store}
    {P : Bytes → Prop} (h : ∀ u, Untouched orgID s (write u) ↔ P u) :
    Untouched orgID s (if p then (match found with | none => s | some u => write u) else s) ↔
      (p → ∀ u, found = some u → P u) := by
  rw [untouched_ite]
  apply imp_congr_right
  intro _
  cases found with
  | none => simp [untouched_refl]
  | some u => simpa only [Option.some.injEq, forall_eq'] using h u

lemma updateTunnelName_untouched {name : Bytes} :
    Untouched orgID s (updateTunnelName env id name s) ↔
      (env.available ∧ 0 ∉ name → ∀ u, env.uuidIn id = some u →
        ∀ t ∈ s.tunnels, t.id = u → t.organizationID = orgID ∨ t.name = name) := by
  apply untouched_statement
  intro u
  simp only [← setName_eq_self]
  exact untouched_updateTunnel _ fun _ => rfl

lemma deleteTunnel_untouched :
    Untouched orgID s (deleteTunnel env id s) ↔
      (env.available → ∀ u, env.uuidIn id = some u →
        ∀ t ∈ s.tunnels, t.id = u → t.organizationID = orgID ∨ t.deletedAt = some env.now) := by
  apply untouched_statement
  intro u
  simp only [← setDeletedAt_eq_self]
  exact untouched_updateTunnel _ fun _ => rfl

lemma revokeAPIKey_untouched :
    Untouched orgID s (revokeAPIKey env id s) ↔
      (env.available → ∀ u, env.uuidIn id = some u →
        ∀ k ∈ s.apiKeys, k.id = u → k.organizationID = orgID ∨ k.revokedAt = some env.now) := by
  apply untouched_statement
  intro u
  simp only [← setRevokedAt_eq_self]
  exact untouched_updateAPIKey _ fun _ => rfl

lemma updateTunnel_isolated {body : Option Json} :
    Isolated (fun o s => s.rows o) (handleUpdateTunnel env id body) orgID s ↔
      (decodedString (ascii "name") body ≠ [] →
        env.available ∧ 0 ∉ decodedString (ascii "name") body → ∀ u, env.uuidIn id = some u →
          ∀ t ∈ s.tunnels, t.id = u →
            t.organizationID = orgID ∨ t.name = decodedString (ascii "name") body) := by
  rw [isolated_iff_of_answer (a := respondMessage "updated") fun _ => rfl]
  apply untouched_ite.trans
  apply imp_congr_right
  intro _
  exact updateTunnelName_untouched

lemma deleteTunnel_isolated :
    Isolated (fun o s => s.rows o) (handleDeleteTunnel env c id) c.orgID s ↔
      (env.available → ∀ u, env.uuidIn id = some u →
        ∀ t ∈ s.tunnels, t.id = u → t.organizationID = c.orgID ∨ t.deletedAt = some env.now) := by
  rw [isolated_iff_of_answer (a := respondMessage "deleted") fun _ => rfl]
  exact untouched_log.trans deleteTunnel_untouched

lemma deleteAPIKey_isolated :
    Isolated (fun o s => s.rows o) (handleDeleteAPIKey env c id) c.orgID s ↔
      (env.available → ∀ u, env.uuidIn id = some u →
        ∀ k ∈ s.apiKeys, k.id = u → k.organizationID = c.orgID ∨ k.revokedAt = some env.now) := by
  rw [isolated_iff_of_answer (a := respondMessage "revoked") fun _ => rfl]
  exact untouched_log.trans revokeAPIKey_untouched

end Writes

end OmniTun.Api
