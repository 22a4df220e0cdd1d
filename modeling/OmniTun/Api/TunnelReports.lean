import OmniTun.Api.Domains

/-! What the REST handlers of single tunnels report, and what is stored afterwards. -/

namespace OmniTun.Api

open OmniTun.Foundation OwnedRows

structure Columns where
  authMode : Bytes := ascii "none"
  maxConnections : ℤ := 100
  deriving DecidableEq

structure TunnelStore where
  store : Store
  columns : Bytes → Columns

section Handlers

variable (c : Caller) (env : CreateEnv)

def handleStartTunnel : Response :=
  ⟨200, jsonObj [("status", .str (ascii "active")), ("relay_address", .str (ascii "localhost:4443"))]⟩

def handleStopTunnel : Response := ⟨200, jsonObj [("status", .str (ascii "stopped"))]⟩

inductive TunnelRequest
  | create (body : Option Json)
  | update (tunnelID : Bytes) (body : Option Json)
  | delete (tunnelID : Bytes)
  | start (tunnelID : Bytes)
  | stop (tunnelID : Bytes)

def TunnelRequest.run (s : TunnelStore) : TunnelRequest → Response × TunnelStore
  | .create body =>
    let (answer, store) := handleCreateTunnel c env body s.store
    (answer, ⟨store, fun id => if ∃ t ∈ s.store.tunnels, t.id = id then s.columns id else {}⟩)
  | .update tunnelID body =>
    let (answer, store) := handleUpdateTunnel env.toEnv tunnelID body s.store
    (answer, { s with store := store })
  | .delete tunnelID =>
    let (answer, store) := handleDeleteTunnel env.toEnv c tunnelID s.store
    (answer, { s with store := store })
  | .start _ => (handleStartTunnel, s)
  | .stop _ => (handleStopTunnel, s)

end Handlers

section Reports

def Response.text (answer : Response) (name : String) : Option Bytes :=
  match answer.body with
  | .obj fs =>
    match Json.get fs (ascii name) with
    | some (.str text) => some text
    | _ => none
  | _ => none

def given {α : Type} (read : Json → Option α) (name : String) (body : Option Json) : Option α :=
  match body with
  | some (.obj fs) => ((Json.named fs (ascii name)).filterMap fun j =>
      match j with
      | .null => none
      | j => read j).getLast?
  | _ => none

def Names (env : CreateEnv) (tunnelID : Bytes) (t : TunnelRow) : Prop :=
  env.uuidIn tunnelID = some t.id

/-- Success is reported for what has happened only. -/
def TunnelRequest.Honest (c : Caller) (env : CreateEnv) (s : TunnelStore) (r : TunnelRequest) :
    Prop :=
  let answer := (r.run c env s).1
  let s' := (r.run c env s).2
  match r with
  | .create _ => answer.status = 201 →
      ∃ id ∈ answer.text "id", ∃ t ∈ s'.store.tunnels, t.id = id
  | .update tunnelID body => answer.status = 200 →
      (∀ v ∈ given Json.readString "name" body, ∃ t ∈ s'.store.tunnels, Names env tunnelID t ∧
        t.name = v) ∧
      (∀ v ∈ given Json.readString "auth_mode" body, ∃ t ∈ s'.store.tunnels,
        Names env tunnelID t ∧ (s'.columns t.id).authMode = v) ∧
      ∀ v ∈ given Json.readInt "max_connections" body, ∃ t ∈ s'.store.tunnels,
        Names env tunnelID t ∧ (s'.columns t.id).maxConnections = v
  | .delete tunnelID => answer.status = 200 →
      (∃ t ∈ s.store.tunnels, Names env tunnelID t ∧ t.deletedAt = none) ∧
      ∃ t ∈ s'.store.tunnels, Names env tunnelID t ∧ t.deletedAt ≠ none
  | .start tunnelID | .stop tunnelID => ∀ status ∈ answer.text "status",
      ∃ t ∈ s'.store.tunnels, Names env tunnelID t ∧ t.status = status

structure Inserts (c : Caller) (env : CreateEnv) (s : Store) : Prop where
  quota : tunnelsUsed c env.toEnv s < maxTunnels (env.plan.getD (ascii "free"))
  workspace : workspaceOf env ≠ []
  orgID : 4 ≤ c.orgID.length

/-- An insert that is tried succeeds, a new name reaches the row and the other fields are what they
were, a live tunnel is deleted, and a status is reported that is there. -/
def TunnelRequest.Borne (c : Caller) (env : CreateEnv) (s : TunnelStore) : TunnelRequest → Prop
  | .create body => Inserts c env s.store → (insertNewTunnel c env body s.store).isSome ∨
      ∃ t ∈ s.store.tunnels, t.id = (newTunnelRow c env c.orgID body).slug
  | .update tunnelID body =>
      (∀ v ∈ given Json.readString "name" body, ∃ t ∈ s.store.tunnels, Names env tunnelID t ∧
        (env.available ∧ v ≠ [] ∧ 0 ∉ v ∨ t.name = v)) ∧
      (∀ v ∈ given Json.readString "auth_mode" body, ∃ t ∈ s.store.tunnels,
        Names env tunnelID t ∧ (s.columns t.id).authMode = v) ∧
      ∀ v ∈ given Json.readInt "max_connections" body, ∃ t ∈ s.store.tunnels,
        Names env tunnelID t ∧ (s.columns t.id).maxConnections = v
  | .delete tunnelID => env.available ∧
      ∃ t ∈ s.store.tunnels, Names env tunnelID t ∧ t.deletedAt = none
  | .start tunnelID => ∃ t ∈ s.store.tunnels, Names env tunnelID t ∧ t.status = ascii "active"
  | .stop tunnelID => ∃ t ∈ s.store.tunnels, Names env tunnelID t ∧ t.status = ascii "stopped"

end Reports

variable {c : Caller} {env : CreateEnv} {s : TunnelStore} {tunnelID : Bytes} {body : Option Json}

lemma decodedString_name : decodedString (ascii "name") body =
    (given Json.readString "name" body).getD [] := by
  rw [decodedString]
  rcases body with _ | j
  · rfl
  · cases j <;> rfl

lemma exists_updateTunnel {s : Store} {u : Bytes} {f : TunnelRow → TunnelRow}
    (hf : ∀ t, (f t).id = t.id) (hu : env.uuidIn tunnelID = some u) (P : TunnelRow → Prop) :
    (∃ t ∈ (s.updateTunnel u f hf).tunnels, Names env tunnelID t ∧ P t) ↔
      ∃ t ∈ s.tunnels, Names env tunnelID t ∧ P (f t) := by
  have hid : ∀ t, Names env tunnelID t → t.id = u := by
    intro t ht
    exact (Option.some.inj (hu.symm.trans ht)).symm
  constructor
  · rintro ⟨t, ht, hname, hp⟩
    obtain ⟨t₀, ht₀, rfl⟩ := List.mem_map.mp ht
    split_ifs at hname hp with hkey
    · refine ⟨t₀, ht₀, ?_, hp⟩
      rw [Names, hu, hkey]
    · exact absurd (hid t₀ hname) hkey
  · rintro ⟨t, ht, hname, hp⟩
    refine ⟨f t, List.mem_map.mpr ⟨t, ht, if_pos (hid t hname)⟩, ?_, hp⟩
    rw [Names, hf]
    exact hname

def renamed (env : CreateEnv) (name : Bytes) (t : TunnelRow) : TunnelRow :=
  if name ≠ [] ∧ env.available ∧ 0 ∉ name then t.setName name else t

lemma renamed_id (env : CreateEnv) (name : Bytes) (t : TunnelRow) :
    (renamed env name t).id = t.id := by
  rw [renamed]
  split_ifs
  · rfl
  · rfl

lemma renamed_name_iff {name : Bytes} {t : TunnelRow} :
    (renamed env name t).name = name ↔
      env.available ∧ name ≠ [] ∧ 0 ∉ name ∨ t.name = name := by
  rw [renamed]
  split_ifs with hwrites
  · exact iff_of_true rfl (.inl ⟨hwrites.2.1, hwrites.1, hwrites.2.2⟩)
  · rw [or_iff_right]
    exact fun h => hwrites ⟨h.2.1, h.1, h.2.2⟩

lemma exists_renamed {s : Store} {name : Bytes} (P : TunnelRow → Prop) :
    (∃ t ∈ (if name ≠ [] then updateTunnelName env.toEnv tunnelID name s else s).tunnels,
      Names env tunnelID t ∧ P t) ↔
      ∃ t ∈ s.tunnels, Names env tunnelID t ∧ P (renamed env name t) := by
  by_cases hwrites : name ≠ [] ∧ env.available ∧ 0 ∉ name
  · have hrenamed : ∀ t, renamed env name t = t.setName name := fun t => if_pos hwrites
    simp only [hrenamed]
    rw [if_pos hwrites.1, updateTunnelName, if_pos hwrites.2]
    cases hu : env.uuidIn tunnelID with
    | none =>
      have hnone : ∀ t, ¬ Names env tunnelID t := by
        intro t ht
        rw [Names, hu] at ht
        cases ht
      simp only [hnone, false_and, and_false, exists_false]
    | some u => exact exists_updateTunnel (f := .setName name) (fun _ => rfl) hu P
  · have hrenamed : ∀ t, renamed env name t = t := fun t => if_neg hwrites
    have hsame : (if name ≠ [] then updateTunnelName env.toEnv tunnelID name s else s) = s := by
      split_ifs with hname
      · rw [updateTunnelName, if_neg fun h => hwrites ⟨hname, h⟩]
      · rfl
    simp only [hrenamed, hsame]

lemma created_text (id name slug protocol domain status : Bytes) (localPort : ℤ) :
    Response.text ⟨201, jsonObj [("id", .str id), ("name", .str name), ("slug", .str slug),
      ("protocol", .str protocol), ("local_port", .num localPort), ("domain", .str domain),
      ("status", .str status)]⟩ "id" = some id := by
  have hget : Json.get [(ascii "id", .str id), (ascii "name", .str name), (ascii "slug", .str slug),
      (ascii "protocol", .str protocol), (ascii "local_port", .num localPort),
      (ascii "domain", .str domain), (ascii "status", .str status)] (ascii "id") =
        some (.str id) := by
    apply Json.get_unique
    · simp only [List.map_cons, List.map_nil]
      decide
    · exact List.mem_cons_self
  rw [Response.text]
  simp only [jsonObj, List.map_cons, List.map_nil, hget]

lemma insertNewTunnel_mem {s s' : Store} (h : insertNewTunnel c env body s = some s') :
    ∃ t ∈ s'.tunnels, t.id = env.rowID := by
  rw [insertNewTunnel] at h
  split_ifs at h
  obtain ⟨o, -, ho⟩ := Option.bind_eq_some_iff.mp h
  obtain ⟨hrow, heq⟩ := Option.dite_none_right_eq_some.mp ho
  refine ⟨newTunnelRow c env o body, ?_, rfl⟩
  rw [← Option.some.inj heq]
  exact List.mem_append_right _ List.mem_cons_self

lemma create_iff : (TunnelRequest.create body).Honest c env s ↔
    (TunnelRequest.create body).Borne c env s := by
  simp only [TunnelRequest.Honest, TunnelRequest.Borne, TunnelRequest.run, handleCreateTunnel]
  split_ifs with hquota hworkspace horg
  · refine iff_of_true (fun h => ?_) fun h => ?_
    · cases h
    · exact absurd h.quota (by omega)
  · refine iff_of_true (fun h => ?_) fun h => ?_
    · cases h
    · exact absurd hworkspace h.workspace
  · refine iff_of_true (fun h => ?_) fun h => ?_
    · cases h
    · exact absurd h.orgID (by omega)
  · have hinserts : Inserts c env s.store := ⟨by omega, hworkspace, by omega⟩
    cases hinsert : insertNewTunnel c env body s.store with
    | none =>
      simp only [created_text, Option.mem_some_iff, exists_eq_left', log_tunnels, hinserts,
        forall_const, Option.isSome_none, Bool.false_eq_true, false_or]
    | some s' =>
      simp only [created_text, Option.mem_some_iff, exists_eq_left', log_tunnels]
      exact iff_of_true (fun _ => insertNewTunnel_mem hinsert) fun _ => .inl rfl

lemma update_iff : (TunnelRequest.update tunnelID body).Honest c env s ↔
    (TunnelRequest.update tunnelID body).Borne c env s := by
  simp only [TunnelRequest.Honest, TunnelRequest.Borne, TunnelRequest.run, handleUpdateTunnel,
    decodedString_name, exists_renamed, renamed_id]
  have hstatus : (respondMessage "updated").status = 200 := rfl
  rw [forall_prop_of_true hstatus]
  apply and_congr_left
  intro _
  apply forall₂_congr
  intro v hv
  rw [Option.mem_def.mp hv, Option.getD_some]
  simp only [renamed_name_iff]

lemma delete_iff : (TunnelRequest.delete tunnelID).Honest c env s ↔
    (TunnelRequest.delete tunnelID).Borne c env s := by
  have hstatus : (respondMessage "deleted").status = 200 := rfl
  simp only [TunnelRequest.Honest, TunnelRequest.Borne, TunnelRequest.run, handleDeleteTunnel,
    log_tunnels]
  rw [forall_prop_of_true hstatus, deleteTunnel]
  split_ifs with havailable
  · rw [and_iff_right havailable, and_iff_left_iff_imp]
    rintro ⟨t, ht, hname, -⟩
    have hu : env.uuidIn tunnelID = some t.id := hname
    simp only [hu]
    rw [exists_updateTunnel (f := .setDeletedAt env.now) (fun _ => rfl) hu]
    exact ⟨t, ht, hname, Option.some_ne_none env.now⟩
  · refine iff_of_false ?_ fun h => havailable h.1
    rintro ⟨⟨t, ht, hname, hlive⟩, t', ht', hname', hdeleted⟩
    have hid : t.id = t'.id := Option.some.inj (hname.symm.trans hname')
    rw [List.inj_on_of_nodup_map s.store.tunnels_keyed ht ht' hid] at hlive
    exact hdeleted hlive

/-- The handlers of single tunnels report success for what has happened, unless an error or a missing
row goes by unseen, or the answer is made up. -/
theorem tunnel_reports_iff (c : Caller) (env : CreateEnv) (s : TunnelStore) (r : TunnelRequest) :
    r.Honest c env s ↔ r.Borne c env s := by
  cases r with
  | create body => exact create_iff
  | update tunnelID body => exact update_iff
  | delete tunnelID => exact delete_iff
  | start tunnelID =>
    have htext : handleStartTunnel.text "status" = some (ascii "active") := by rfl
    simp [TunnelRequest.Honest, TunnelRequest.Borne, TunnelRequest.run, htext]
  | stop tunnelID =>
    have htext : handleStopTunnel.text "status" = some (ascii "stopped") := by rfl
    simp [TunnelRequest.Honest, TunnelRequest.Borne, TunnelRequest.run, htext]

def noDatabase : CreateEnv where
  available := false
  uuidIn := some
  inserts _ := false
  now := 0
  formatTime _ := []
  uuidStr := ascii "c0ffee"
  plan := none
  workspaceID := ascii "w"
  foundWorkspace := []
  rowID := ascii "t"
  accepts _ _ := true

theorem tunnel_reports_without_database :
    ¬ (TunnelRequest.create none).Honest ⟨ascii "acme", [], []⟩ noDatabase ⟨.empty, fun _ => {}⟩ ∧
      ¬ (TunnelRequest.update (ascii "t") (some (.obj [(ascii "name", .str (ascii "n"))]))).Honest
        ⟨ascii "acme", [], []⟩ noDatabase ⟨.empty, fun _ => {}⟩ ∧
      ¬ (TunnelRequest.delete (ascii "t")).Honest ⟨ascii "acme", [], []⟩ noDatabase
        ⟨.empty, fun _ => {}⟩ ∧
      ¬ (TunnelRequest.start (ascii "t")).Honest ⟨ascii "acme", [], []⟩ noDatabase
        ⟨.empty, fun _ => {}⟩ := by
  have hnone : ∀ P : TunnelRow → Prop, ¬ ∃ t ∈ Store.empty.tunnels, P t := by
    rintro P ⟨t, ht, -⟩
    cases ht
  refine ⟨fun h => ?_, fun h => ?_, fun h => ?_, fun h => ?_⟩
  · obtain ⟨id, -, hrow⟩ := h rfl
    exact hnone _ hrow
  · exact hnone _ ((h rfl).1 (ascii "n") rfl)
  · exact hnone _ (h rfl).1
  · exact hnone _ (h (ascii "active") rfl)

end OmniTun.Api
