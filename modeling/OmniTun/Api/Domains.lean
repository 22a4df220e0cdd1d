import OmniTun.Api.Handlers
import OmniTun.Foundation.LabelledRows
import OmniTun.Foundation.Numerals
import OmniTun.Foundation.Transition

/-! The custom domains of tunnels: the handlers that give and take them, and whose they are. -/

namespace OmniTun.Api

open OmniTun.Foundation LabelledRows Numerals OwnedRows Transition

structure CreateEnv extends Env where
  plan : Option Bytes
  workspaceID : Bytes
  foundWorkspace : Bytes
  rowID : Bytes
  accepts : Bytes → TunnelRow → Bool

def maxTunnels (plan : Bytes) : ℕ :=
  if plan = ascii "pro" then 10
  else if plan = ascii "team" then 50
  else if plan = ascii "business" then 999999
  else 1

def TunnelRow.setCustomDomain (orgID : Bytes) (domain : Option Bytes) (t : TunnelRow) : TunnelRow :=
  if t.organizationID = orgID then { t with customDomain := domain } else t

lemma TunnelRow.setCustomDomain_id (orgID : Bytes) (domain : Option Bytes) (t : TunnelRow) :
    (t.setCustomDomain orgID domain).id = t.id := by
  rw [TunnelRow.setCustomDomain]
  split_ifs <;> rfl

def Store.insertTunnel (row : TunnelRow) (s : Store) (h : ∀ t ∈ s.tunnels, t.id ≠ row.id) : Store :=
  { s with
    tunnels := s.tunnels ++ [row]
    tunnels_keyed := (nodup_concat_iff s.tunnels_keyed).mpr h }

def recovered : Response := ⟨500, .null⟩

section Handlers

variable (c : Caller)

def tunnelsUsed (env : Env) (s : Store) : ℕ :=
  if env.available then
    match env.uuidIn c.orgID with
    | some o => s.tunnels.countP fun t => t.organizationID = o ∧ t.deletedAt = none
    | none => 0
  else 0

def quotaExceeded (limit : ℕ) : Response :=
  ⟨402, jsonObj [("error", jsonObj [("code", .str (ascii "quota_exceeded")),
    ("message", .str (ascii "Tunnel limit reached (" ++ natNumeral limit ++
      ascii "). Upgrade your plan to create more."))])]⟩

def orElse (s default : Bytes) : Bytes := if s = [] then default else s

def newTunnelRow (env : CreateEnv) (o : Bytes) (body : Option Json) : TunnelRow where
  id := env.rowID
  organizationID := o
  name := decodedString (ascii "name") body
  slug := ascii "tun-" ++ c.orgID.take 4 ++ ascii "-" ++ env.uuidStr.take 6
  protocol := orElse (decodedString (ascii "protocol") body) (ascii "http")
  localPort := if decodedInt (ascii "local_port") body = 0 then 80
    else decodedInt (ascii "local_port") body
  customDomain := some (decodedString (ascii "domain") body)
  status := ascii "stopped"
  bytesInTotal := 0
  bytesOutTotal := 0
  createdAt := env.now
  deletedAt := none

def workspaceOf (env : CreateEnv) : Bytes := orElse env.workspaceID env.foundWorkspace

def insertNewTunnel (env : CreateEnv) (body : Option Json) (s : Store) : Option Store :=
  if env.available then
    (env.uuidIn c.orgID).bind fun o =>
      let row := newTunnelRow c env o body
      if h : env.accepts (workspaceOf env) row ∧ ∀ t ∈ s.tunnels, t.id ≠ row.id then
        some (s.insertTunnel row h.2)
      else none
  else none

structure Creates (env : CreateEnv) (body : Option Json) (s : Store) : Prop where
  quota : tunnelsUsed c env.toEnv s < maxTunnels (env.plan.getD (ascii "free"))
  workspace : workspaceOf env ≠ []
  orgID : 4 ≤ c.orgID.length
  inserts : (insertNewTunnel c env body s).isSome

def handleCreateTunnel (env : CreateEnv) (body : Option Json) (s : Store) : Response × Store :=
  let limit := maxTunnels (env.plan.getD (ascii "free"))
  if limit ≤ tunnelsUsed c env.toEnv s then (quotaExceeded limit, s)
  else if workspaceOf env = [] then
    (respondError 400 "no_workspace" "no workspace found; create a workspace first", s)
  else if c.orgID.length < 4 then (recovered, s)
  else
    let row := newTunnelRow c env c.orgID body
    let answer (id : Bytes) : Response :=
      ⟨201, jsonObj [("id", .str id), ("name", .str row.name), ("slug", .str row.slug),
        ("protocol", .str row.protocol), ("local_port", .num row.localPort),
        ("domain", .str (decodedString (ascii "domain") body)), ("status", .str row.status)]⟩
    match insertNewTunnel c env body s with
    -- a failed insert is not reported, and the slug stands for the id
    | none => (answer row.slug, s.log env.toEnv (auditEvent c "tunnel.create" "tunnel" row.slug))
    | some s' => (answer row.id, s'.log env.toEnv (auditEvent c "tunnel.create" "tunnel" row.id))

def setCustomDomain (env : Env) (tunnelID : Bytes) (domain : Option Bytes) (s : Store) :
    Option Store :=
  if env.available ∧ 0 ∉ domain.getD [] then
    match env.uuidIn tunnelID, env.uuidIn c.orgID with
    | some u, some o =>
      if ∃ t ∈ s.tunnels, t.id = u ∧ t.organizationID = o then
        some (s.updateTunnel u (.setCustomDomain o domain) (TunnelRow.setCustomDomain_id o domain))
      else none
    | _, _ => none
  else none

def handleAddDomain (env : Env) (body : Option Json) (s : Store) : Response × Store :=
  let domain := decodedString (ascii "domain") body
  let tunnelID := decodedString (ascii "tunnel_id") body
  if domain = [] then (respondError 400 "invalid_request" "domain is required", s)
  else if tunnelID = [] then (respondError 400 "invalid_request" "tunnel_id is required", s)
  else
    match setCustomDomain c env tunnelID (some domain) s with
    | none => (respondError 404 "tunnel_not_found" "tunnel not found or update failed", s)
    | some s' =>
      if tunnelID.length < 8 then (recovered, s')
      else
        let record := tunnelID.take 8 ++ ascii ".omnitun-edge.com"
        (⟨201, jsonObj [("id", .str tunnelID), ("domain", .str domain), ("tunnel_id", .str tunnelID),
          ("verification", jsonObj [("type", .str (ascii "CNAME")), ("record", .str record),
            ("token", .str (env.uuidStr.take 16)), ("status", .str (ascii "pending"))]),
          ("dns_instructions", .str (ascii "Add a CNAME record: " ++ domain ++
            " → ".toUTF8.toList ++ record))]⟩, s')

def handleRemoveDomain (env : Env) (domainID : Bytes) (s : Store) : Response × Store :=
  match setCustomDomain c env domainID none s with
  | none => (respondError 404 "domain_not_found" "domain not found", s)
  | some s' => (respondMessage "domain removed", s')

end Handlers

inductive DomainRequest
  | createTunnel (body : Option Json)
  | addDomain (body : Option Json)
  | removeDomain (domainID : Bytes)
  | deleteTunnel (tunnelID : Bytes)

structure DomainAction where
  env : CreateEnv
  caller : Caller
  request : DomainRequest

namespace DomainAction

def handle (s : Store) (a : DomainAction) : Response × Store :=
  match a.request with
  | .createTunnel body => handleCreateTunnel a.caller a.env body s
  | .addDomain body => handleAddDomain a.caller a.env.toEnv body s
  | .removeDomain domainID => handleRemoveDomain a.caller a.env.toEnv domainID s
  | .deleteTunnel tunnelID => handleDeleteTunnel a.env.toEnv a.caller tunnelID s

def step (s : Store) (a : DomainAction) : Option Store := some (a.handle s).2

end DomainAction

structure TunnelRow.Holds (t : TunnelRow) (domain : Bytes) : Prop where
  live : t.deletedAt = none
  domain_eq : t.customDomain = some domain

def Exclusive (s : Store) : Prop :=
  ∀ d ≠ [], ∀ t ∈ s.tunnels, ∀ t' ∈ s.tunnels, t.Holds d → t'.Holds d → t.id = t'.id

structure Attached (s s' : Store) (d : Bytes) (t' : TunnelRow) : Prop where
  mem : t' ∈ s'.tunnels
  domain_eq : t'.customDomain = some d
  newly : ∀ t ∈ s.tunnels, t.id = t'.id → t.customDomain ≠ some d

def Respects (s s' : Store) : Prop :=
  ∀ d ≠ [], ∀ t ∈ s.tunnels, t.Holds d → ∀ t', Attached s s' d t' →
    t'.organizationID = t.organizationID

namespace DomainAction

/-- A live tunnel takes a domain that no other live tunnel holds, and a deleted one takes none that
another organisation's live tunnel holds. -/
def Allowed (s : Store) (a : DomainAction) : Prop :=
  match a.request with
  | .createTunnel body =>
    let d := decodedString (ascii "domain") body
    Creates a.caller a.env body s → d ≠ [] → ∀ t ∈ s.tunnels, ¬ t.Holds d
  | .addDomain body =>
    let d := decodedString (ascii "domain") body
    let tunnelID := decodedString (ascii "tunnel_id") body
    a.env.available ∧ 0 ∉ d ∧ d ≠ [] ∧ tunnelID ≠ [] →
      ∀ t₀ ∈ s.tunnels, a.env.uuidIn tunnelID = some t₀.id →
        a.env.uuidIn a.caller.orgID = some t₀.organizationID →
          (t₀.deletedAt = none → ∀ t ∈ s.tunnels, t.Holds d → t.id = t₀.id) ∧
          (t₀.deletedAt ≠ none → t₀.customDomain ≠ some d →
            ∀ t ∈ s.tunnels, t.Holds d → t.organizationID = t₀.organizationID)
  | _ => True

end DomainAction

section Effects

variable {s s' : Store} {u o d : Bytes} {row t₀ : TunnelRow}

def Shrinks (s s' : Store) : Prop :=
  ∀ t' ∈ s'.tunnels, ∃ t ∈ s.tunnels, t.id = t'.id ∧ (t'.deletedAt = none → t.deletedAt = none) ∧
    ∀ d, t'.customDomain = some d → t.customDomain = some d

lemma exclusive_of_shrinks (hs : Exclusive s) (h : Shrinks s s') : Exclusive s' := by
  intro d hd t₁ ht₁ t₂ ht₂ h₁ h₂
  obtain ⟨r₁, hr₁, hid₁, hlive₁, hdomain₁⟩ := h t₁ ht₁
  obtain ⟨r₂, hr₂, hid₂, hlive₂, hdomain₂⟩ := h t₂ ht₂
  have hholds₁ : r₁.Holds d := ⟨hlive₁ h₁.live, hdomain₁ d h₁.domain_eq⟩
  have hholds₂ : r₂.Holds d := ⟨hlive₂ h₂.live, hdomain₂ d h₂.domain_eq⟩
  rw [← hid₁, ← hid₂]
  exact hs d hd r₁ hr₁ r₂ hr₂ hholds₁ hholds₂

lemma respects_of_shrinks (h : Shrinks s s') : Respects s s' := by
  intro d _ t _ _ t' hattached
  obtain ⟨r, hr, hid, -, hdomain⟩ := h t' hattached.mem
  exact absurd (hdomain d hattached.domain_eq) (hattached.newly r hr hid)

lemma shrinks_self (h : s'.tunnels = s.tunnels) : Shrinks s s' := by
  intro t' ht'
  rw [h] at ht'
  exact ⟨t', ht', rfl, fun hlive => hlive, fun _ hdomain => hdomain⟩

lemma kept_of_shrinks (hs : Exclusive s) (h : Shrinks s s') : Exclusive s' ∧ Respects s s' :=
  ⟨exclusive_of_shrinks hs h, respects_of_shrinks h⟩

def TunnelRow.held (t : TunnelRow) : Option Bytes :=
  if t.deletedAt = none then t.customDomain.filter (· ≠ []) else none

lemma TunnelRow.held_eq_some : row.held = some d ↔ row.Holds d ∧ d ≠ [] := by
  rw [TunnelRow.held, Option.ite_none_right_eq_some, Option.filter_eq_some_iff, decide_eq_true_eq]
  constructor
  · rintro ⟨hlive, hdomain, hd⟩
    exact ⟨⟨hlive, hdomain⟩, hd⟩
  · rintro ⟨hholds, hd⟩
    exact ⟨hholds.live, hholds.domain_eq, hd⟩

lemma exclusive_iff : Exclusive s ↔ Unambiguous TunnelRow.id TunnelRow.held s.tunnels := by
  constructor
  · intro hs t ht t' ht' d hd hd'
    obtain ⟨hholds, hne⟩ := TunnelRow.held_eq_some.mp hd
    exact hs d hne t ht t' ht' hholds (TunnelRow.held_eq_some.mp hd').1
  · intro hs d hne t ht t' ht' hholds hholds'
    exact hs t ht t' ht' d (TunnelRow.held_eq_some.mpr ⟨hholds, hne⟩)
      (TunnelRow.held_eq_some.mpr ⟨hholds', hne⟩)

lemma exclusive_insert (hs : Exclusive s) (hid : ∀ t ∈ s.tunnels, t.id ≠ row.id)
    (hrow : row.Holds d) (h : s'.tunnels = s.tunnels ++ [row]) :
    Exclusive s' ∧ Respects s s' ↔ (d ≠ [] → ∀ t ∈ s.tunnels, ¬ t.Holds d) := by
  have hdomain : ∀ d', row.customDomain = some d' → d' = d := fun d' hd' =>
    Option.some.inj (hd'.symm.trans hrow.domain_eq)
  have hexclusive : Exclusive s' ↔ (d ≠ [] → ∀ t ∈ s.tunnels, ¬ t.Holds d) := by
    rw [exclusive_iff, h, unambiguous_concat_iff (exclusive_iff.mp hs) hid]
    constructor
    · intro hnew hd t ht hholds
      exact hnew d (TunnelRow.held_eq_some.mpr ⟨hrow, hd⟩) t ht
        (TunnelRow.held_eq_some.mpr ⟨hholds, hd⟩)
    · intro hfree d' hd' t ht ht'
      obtain ⟨hholds, hne⟩ := TunnelRow.held_eq_some.mp hd'
      obtain rfl := hdomain d' hholds.domain_eq
      exact hfree hne t ht (TunnelRow.held_eq_some.mp ht').1
  rw [← hexclusive]
  apply and_iff_left_of_imp
  intro hs' d' hd' t ht hholds t' hattached
  have hmem : t' ∈ s.tunnels ++ [row] := h ▸ hattached.mem
  rcases List.mem_append.mp hmem with ht' | ht'
  · exact absurd hattached.domain_eq (hattached.newly t' ht' rfl)
  · obtain rfl := List.mem_singleton.mp ht'
    obtain rfl := hdomain d' hattached.domain_eq
    exact absurd hholds (hexclusive.mp hs' hd' t ht)

lemma eq_of_id (ht : row ∈ s.tunnels) (ht₀ : t₀ ∈ s.tunnels) (h : row.id = t₀.id) : row = t₀ :=
  List.inj_on_of_nodup_map s.tunnels_keyed ht ht₀ h

lemma TunnelRow.setCustomDomain_own (domain : Option Bytes) (t : TunnelRow) :
    t.setCustomDomain t.organizationID domain = { t with customDomain := domain } :=
  if_pos rfl

lemma mem_setCustomDomain {domain : Option Bytes} (ht₀ : t₀ ∈ s.tunnels)
    (h : s' = s.updateTunnel t₀.id (.setCustomDomain t₀.organizationID domain)
      (TunnelRow.setCustomDomain_id t₀.organizationID domain)) :
    row ∈ s'.tunnels ↔
      row ∈ s.tunnels ∧ row.id ≠ t₀.id ∨ row = { t₀ with customDomain := domain } := by
  rw [h, ← TunnelRow.setCustomDomain_own]
  exact mem_update s.tunnels_keyed ht₀ rfl

lemma exclusive_setCustomDomain_iff (hs : Exclusive s) (ht₀ : t₀ ∈ s.tunnels) (hd : d ≠ [])
    (h : s' = s.updateTunnel t₀.id (.setCustomDomain t₀.organizationID (some d))
      (TunnelRow.setCustomDomain_id t₀.organizationID (some d))) :
    Exclusive s' ↔ (t₀.deletedAt = none → ∀ t ∈ s.tunnels, t.Holds d → t.id = t₀.id) := by
  have hid := TunnelRow.setCustomDomain_id t₀.organizationID (some d) t₀
  have hupdate : s'.tunnels =
      update TunnelRow.id t₀.id (.setCustomDomain t₀.organizationID (some d)) s.tunnels := by
    rw [h]
    rfl
  have hholds : ∀ d', TunnelRow.Holds { t₀ with customDomain := some d } d' ↔
      t₀.deletedAt = none ∧ d = d' :=
    fun d' => ⟨fun h => ⟨h.live, Option.some.inj h.domain_eq⟩, fun h => ⟨h.1, congrArg some h.2⟩⟩
  rw [exclusive_iff, hupdate,
    unambiguous_update_iff (exclusive_iff.mp hs) s.tunnels_keyed ht₀ rfl hid,
    TunnelRow.setCustomDomain_own]
  constructor
  · intro hnew hlive t ht hholds'
    by_contra hne
    have hheld := TunnelRow.held_eq_some.mpr ⟨(hholds d).mpr ⟨hlive, rfl⟩, hd⟩
    exact hnew d hheld t ht hne (TunnelRow.held_eq_some.mpr ⟨hholds', hd⟩)
  · intro hlive d' hd' t ht hne ht'
    obtain ⟨hdeleted, rfl⟩ := (hholds d').mp (TunnelRow.held_eq_some.mp hd').1
    exact hne (hlive hdeleted t ht (TunnelRow.held_eq_some.mp ht').1)

lemma exclusive_setCustomDomain (hs : Exclusive s) (ht₀ : t₀ ∈ s.tunnels) (hd : d ≠ [])
    (h : s' = s.updateTunnel t₀.id (.setCustomDomain t₀.organizationID (some d))
      (TunnelRow.setCustomDomain_id t₀.organizationID (some d))) :
    Exclusive s' ∧ Respects s s' ↔
      (t₀.deletedAt = none → ∀ t ∈ s.tunnels, t.Holds d → t.id = t₀.id) ∧
      (t₀.deletedAt ≠ none → t₀.customDomain ≠ some d →
        ∀ t ∈ s.tunnels, t.Holds d → t.organizationID = t₀.organizationID) := by
  have hmem : ∀ t, t ∈ s'.tunnels ↔
      t ∈ s.tunnels ∧ t.id ≠ t₀.id ∨ t = { t₀ with customDomain := some d } :=
    fun _ => mem_setCustomDomain ht₀ h
  have hnew : { t₀ with customDomain := some d } ∈ s'.tunnels := (hmem _).mpr (.inr rfl)
  rw [exclusive_setCustomDomain_iff hs ht₀ hd h]
  apply and_congr_right
  intro hlive
  constructor
  · intro hrespects _ hne t ht hholds
    have hattached : Attached s s' d { t₀ with customDomain := some d } := by
      refine ⟨hnew, rfl, fun r hr hid => ?_⟩
      rwa [eq_of_id hr ht₀ hid]
    exact (hrespects d hd t ht hholds _ hattached).symm
  · intro hdeleted d' hd' t ht hholds t' hattached
    rcases (hmem t').mp hattached.mem with ⟨ht', -⟩ | rfl
    · exact absurd hattached.domain_eq (hattached.newly t' ht' rfl)
    · obtain rfl := Option.some.inj hattached.domain_eq
      by_cases hdel : t₀.deletedAt = none
      · rw [eq_of_id ht ht₀ (hlive hdel t ht hholds)]
      · exact (hdeleted hdel (hattached.newly t₀ ht₀ rfl) t ht hholds).symm

lemma shrinks_setCustomDomain (ht₀ : t₀ ∈ s.tunnels)
    (h : s' = s.updateTunnel t₀.id (.setCustomDomain t₀.organizationID none)
      (TunnelRow.setCustomDomain_id t₀.organizationID none)) : Shrinks s s' := by
  intro t' ht'
  rcases (mem_setCustomDomain ht₀ h).mp ht' with ⟨ht', -⟩ | rfl
  · exact ⟨t', ht', rfl, fun hlive => hlive, fun _ hdomain => hdomain⟩
  · exact ⟨t₀, ht₀, rfl, fun hlive => hlive, fun _ hdomain => by cases hdomain⟩

lemma shrinks_delete {now : ℤ} (h : s' = s.updateTunnel u (.setDeletedAt now) fun _ => rfl) :
    Shrinks s s' := by
  intro t' ht'
  rw [h] at ht'
  obtain ⟨t, ht, rfl⟩ := List.mem_map.mp ht'
  have hdeleted : (t.setDeletedAt now).deletedAt ≠ none := by simp [TunnelRow.setDeletedAt]
  refine ⟨t, ht, ?_⟩
  split_ifs
  · exact ⟨rfl, fun hlive => absurd hlive hdeleted, fun _ hdomain => hdomain⟩
  · exact ⟨rfl, fun hlive => hlive, fun _ hdomain => hdomain⟩

end Effects

lemma log_tunnels {env : Env} {e : AuditEvent} {s : Store} :
    (s.log env e).tunnels = s.tunnels := by
  rw [Store.log]
  split_ifs <;> rfl

section Steps

variable {env : CreateEnv} {c : Caller} {s s' : Store} {id d : Bytes} {body : Option Json}
  {domain : Option Bytes}

lemma insertNewTunnel_eq_some (h : insertNewTunnel c env body s = some s') :
    ∃ row : TunnelRow, (∀ t ∈ s.tunnels, t.id ≠ row.id) ∧
      row.Holds (decodedString (ascii "domain") body) ∧ s'.tunnels = s.tunnels ++ [row] := by
  unfold insertNewTunnel at h
  split_ifs at h
  obtain ⟨o, -, ho⟩ := Option.bind_eq_some_iff.mp h
  simp only at ho
  split_ifs at ho with hrow
  obtain rfl := Option.some.inj ho
  exact ⟨newTunnelRow c env o body, hrow.2, ⟨rfl, rfl⟩, rfl⟩

lemma handleCreateTunnel_tunnels :
    (∃ s', Creates c env body s ∧ insertNewTunnel c env body s = some s' ∧
      (handleCreateTunnel c env body s).2.tunnels = s'.tunnels) ∨
    ¬ Creates c env body s ∧ (handleCreateTunnel c env body s).2.tunnels = s.tunnels := by
  simp only [handleCreateTunnel]
  split_ifs with hquota hworkspace horg
  · exact .inr ⟨fun h => absurd h.quota (by omega), rfl⟩
  · exact .inr ⟨fun h => h.workspace hworkspace, rfl⟩
  · exact .inr ⟨fun h => absurd h.orgID (by omega), rfl⟩
  · cases hinsert : insertNewTunnel c env body s with
    | none => exact .inr ⟨fun h => by simpa [hinsert] using h.inserts, log_tunnels⟩
    | some s' =>
      exact .inl ⟨s', ⟨by omega, hworkspace, by omega, by simp [hinsert]⟩, rfl, log_tunnels⟩

lemma step_createTunnel (hs : Exclusive s) :
    Exclusive (handleCreateTunnel c env body s).2 ∧ Respects s (handleCreateTunnel c env body s).2 ↔
      DomainAction.Allowed s ⟨env, c, .createTunnel body⟩ := by
  rcases handleCreateTunnel_tunnels (c := c) (s := s) with
    ⟨s', hcreates, hinsert, htunnels⟩ | ⟨hcreates, htunnels⟩
  · obtain ⟨row, hid, hrow, happend⟩ := insertNewTunnel_eq_some hinsert
    rw [exclusive_insert hs hid hrow (htunnels.trans happend)]
    simp only [DomainAction.Allowed, hcreates, true_implies]
  · apply iff_of_true (kept_of_shrinks hs (shrinks_self htunnels))
    exact fun h => absurd h hcreates

lemma setCustomDomain_eq_some (h : setCustomDomain c env.toEnv id domain s = some s') :
    env.available ∧ 0 ∉ domain.getD [] ∧ ∃ t₀ ∈ s.tunnels, env.uuidIn id = some t₀.id ∧
      env.uuidIn c.orgID = some t₀.organizationID ∧
      s' = s.updateTunnel t₀.id (.setCustomDomain t₀.organizationID domain)
        (TunnelRow.setCustomDomain_id t₀.organizationID domain) := by
  unfold setCustomDomain at h
  split_ifs at h with havailable
  refine ⟨havailable.1, havailable.2, ?_⟩
  split at h
  · rename_i u o hu ho
    split_ifs at h with hex
    obtain ⟨t₀, ht₀, rfl, rfl⟩ := hex
    exact ⟨t₀, ht₀, hu, ho, (Option.some.inj h).symm⟩
  · cases h

lemma setCustomDomain_eq_none (h : setCustomDomain c env.toEnv id domain s = none)
    (havailable : env.available) (hnul : 0 ∉ domain.getD []) {t₀ : TunnelRow} (ht₀ : t₀ ∈ s.tunnels)
    (hu : env.uuidIn id = some t₀.id) : env.uuidIn c.orgID ≠ some t₀.organizationID := by
  intro ho
  unfold setCustomDomain at h
  rw [if_pos ⟨havailable, hnul⟩, hu, ho] at h
  simp only at h
  rw [if_pos ⟨t₀, ht₀, rfl, rfl⟩] at h
  cases h

lemma handleAddDomain_store : (handleAddDomain c env.toEnv body s).2 =
    if decodedString (ascii "domain") body = [] ∨ decodedString (ascii "tunnel_id") body = [] then s
    else (setCustomDomain c env.toEnv (decodedString (ascii "tunnel_id") body)
      (some (decodedString (ascii "domain") body)) s).getD s := by
  simp only [handleAddDomain]
  by_cases hd : decodedString (ascii "domain") body = []
  · rw [if_pos hd, if_pos (.inl hd)]
  · by_cases hid : decodedString (ascii "tunnel_id") body = []
    · rw [if_neg hd, if_pos hid, if_pos (.inr hid)]
    · rw [if_neg hd, if_neg hid, if_neg (not_or.mpr ⟨hd, hid⟩)]
      cases setCustomDomain c env.toEnv (decodedString (ascii "tunnel_id") body)
        (some (decodedString (ascii "domain") body)) s with
      | none => rfl
      | some s' =>
        simp only [Option.getD_some]
        split_ifs <;> rfl

lemma step_addDomain (hs : Exclusive s) :
    Exclusive (handleAddDomain c env.toEnv body s).2 ∧
        Respects s (handleAddDomain c env.toEnv body s).2 ↔
      DomainAction.Allowed s ⟨env, c, .addDomain body⟩ := by
  rw [handleAddDomain_store]
  simp only [DomainAction.Allowed]
  split_ifs with hempty
  · apply iff_of_true (kept_of_shrinks hs (shrinks_self rfl))
    rintro ⟨-, -, hd, hid⟩
    exact absurd hempty (not_or.mpr ⟨hd, hid⟩)
  · obtain ⟨hd, hid⟩ := not_or.mp hempty
    cases hset : setCustomDomain c env.toEnv (decodedString (ascii "tunnel_id") body)
      (some (decodedString (ascii "domain") body)) s with
    | none =>
      apply iff_of_true (kept_of_shrinks hs (shrinks_self rfl))
      rintro ⟨havailable, hnul, -, -⟩ t₀ ht₀ hu ho
      exact absurd ho (setCustomDomain_eq_none hset havailable hnul ht₀ hu)
    | some s' =>
      obtain ⟨havailable, hnul, t₀, ht₀, hu, ho, hs'⟩ := setCustomDomain_eq_some hset
      rw [Option.getD_some, exclusive_setCustomDomain hs ht₀ hd hs']
      constructor
      · rintro hcondition - t₁ ht₁ hu₁ ho₁
        obtain rfl := eq_of_id ht₁ ht₀ (Option.some.inj (hu₁.symm.trans hu))
        exact hcondition
      · intro hcondition
        exact hcondition ⟨havailable, hnul, hd, hid⟩ t₀ ht₀ hu ho

lemma step_removeDomain (hs : Exclusive s) :
    Exclusive (handleRemoveDomain c env.toEnv id s).2 ∧
      Respects s (handleRemoveDomain c env.toEnv id s).2 := by
  apply kept_of_shrinks hs
  rw [handleRemoveDomain]
  cases hset : setCustomDomain c env.toEnv id none s with
  | none => exact shrinks_self rfl
  | some s' =>
    obtain ⟨-, -, t₀, ht₀, -, -, hs'⟩ := setCustomDomain_eq_some hset
    exact shrinks_setCustomDomain ht₀ hs'

lemma step_deleteTunnel (hs : Exclusive s) :
    Exclusive (handleDeleteTunnel env.toEnv c id s).2 ∧
      Respects s (handleDeleteTunnel env.toEnv c id s).2 := by
  apply kept_of_shrinks hs
  have hdelete : Shrinks s (deleteTunnel env.toEnv id s) := by
    rw [deleteTunnel]
    split_ifs
    · cases env.uuidIn id with
      | none => exact shrinks_self rfl
      | some u => exact shrinks_delete rfl
    · exact shrinks_self rfl
  intro t' ht'
  rw [handleDeleteTunnel, log_tunnels] at ht'
  exact hdelete t' ht'

lemma step_exclusive_iff (a : DomainAction) (hs : Exclusive s) :
    Exclusive (a.handle s).2 ∧ Respects s (a.handle s).2 ↔ a.Allowed s := by
  obtain ⟨env, c, request⟩ := a
  cases request with
  | createTunnel body => exact step_createTunnel hs
  | addDomain body => exact step_addDomain hs
  | removeDomain id => exact iff_of_true (step_removeDomain hs) trivial
  | deleteTunnel id => exact iff_of_true (step_deleteTunnel hs) trivial

end Steps

theorem domains_exclusive_iff (acts : List DomainAction) :
    Always DomainAction.step Exclusive .empty acts ∧
        Guarded DomainAction.step (fun s a => Respects s (a.handle s).2) .empty acts ↔
      Guarded DomainAction.step (fun s a => a.Allowed s) .empty acts := by
  apply always_and_guarded_iff
  · intro d _ t ht
    cases ht
  · intro s a t hs ht
    obtain rfl := Option.some.inj ht
    exact step_exclusive_iff a hs

section Runs

def createEnv (rowID : String) : CreateEnv where
  available := true
  uuidIn := some
  inserts := fun _ => true
  now := 0
  formatTime := fun _ => []
  uuidStr := ascii "cccccccc-0000-4000-8000-000000000000"
  plan := none
  workspaceID := ascii "workspace"
  foundWorkspace := []
  rowID := ascii rowID
  accepts := fun _ _ => true

def createFirst : DomainAction where
  env := createEnv "tunnel-1"
  caller := ⟨ascii "red-org", ascii "user-1", ascii "10.0.0.1"⟩
  request := .createTunnel (some (jsonObj [("domain", .str (ascii "app.example.com"))]))

def createSecond : DomainAction where
  env := createEnv "tunnel-2"
  caller := ⟨ascii "blue-org", ascii "user-2", ascii "10.0.0.2"⟩
  request := .createTunnel none

def addSecond : DomainAction where
  env := createEnv ""
  caller := ⟨ascii "blue-org", ascii "user-2", ascii "10.0.0.2"⟩
  request := .addDomain (some (jsonObj [("domain", .str (ascii "app.example.com")),
    ("tunnel_id", .str (ascii "tunnel-2"))]))

def attachedRow (a : DomainAction) (o : String) (body : Option Json) : TunnelRow :=
  { newTunnelRow a.caller a.env (ascii o) body with customDomain := some (ascii "app.example.com") }

theorem domains_exclusive_fails :
    ¬ (Always DomainAction.step Exclusive .empty [createFirst, createSecond, addSecond] ∧
      Guarded DomainAction.step (fun s a => Respects s (a.handle s).2) .empty
        [createFirst, createSecond, addSecond]) := by
  rintro ⟨h, -⟩
  have hlast := (((h.2 _ rfl).2 _ rfl).2 _ rfl).head
  have hid := hlast (ascii "app.example.com") (by decide)
    (attachedRow createFirst "red-org" none) (by decide)
    (attachedRow createSecond "blue-org" none) (by decide) ⟨rfl, rfl⟩ ⟨rfl, rfl⟩
  revert hid
  decide

end Runs

end OmniTun.Api
