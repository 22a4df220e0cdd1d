import OmniTun.Api.Handlers
import OmniTun.Tunnel.Repository

/-! The REST handlers that start and stop lists of tunnels, beside the transitions of the tunnel
service. -/

namespace OmniTun.Api

open OmniTun.Foundation OwnedRows

def TunnelRow.setStatus (status : Bytes) (t : TunnelRow) : TunnelRow := { t with status := status }

section Handlers

variable (env : Env) (c : Caller)

def namedTunnel (s : Store) (id : Bytes) : Option Bytes :=
  if env.available then
    match env.uuidIn id, env.uuidIn c.orgID with
    | some u, some o =>
      if ∃ t ∈ s.tunnels, t.id = u ∧ t.organizationID = o ∧ t.deletedAt = none then some u else none
    | _, _ => none
  else none

def updateTunnelStatus (status tunnelID : Bytes) (s : Store) : Option Store :=
  (namedTunnel env c s tunnelID).map fun u => s.updateTunnel u (.setStatus status) fun _ => rfl

def batchStep (status : Bytes) (batch : ℕ × Store) (id : Bytes) : ℕ × Store :=
  match updateTunnelStatus env c status id batch.2 with
  | none => batch
  | some s => (batch.1 + 1, s)

def batchUpdate (status : Bytes) (ids : List Bytes) (s : Store) : ℕ × Store :=
  ids.foldl (batchStep env c status) (0, s)

def batchResponse (successCount total : ℕ) : Response :=
  ⟨200, jsonObj [("success", .num successCount), ("total", .num total),
    ("failures", .num (total - successCount))]⟩

def handleBatch (status : String) (ids : List Bytes) (s : Store) : Response × Store :=
  let batch := batchUpdate env c (ascii status) ids s
  (batchResponse batch.1 ids.length, batch.2)

def handleBatchStartTunnels : List Bytes → Store → Response × Store := handleBatch env c "active"

def handleBatchStopTunnels : List Bytes → Store → Response × Store := handleBatch env c "stopped"

end Handlers

def validateTransition (source target : Bytes) : Except Bytes Unit :=
  match [Tunnel.TunnelStatus.stopped, .starting, .active, .error].find? (·.string = source) with
  | none => .error (ascii "unknown tunnel status: " ++ source)
  | some status =>
    if (Tunnel.validTransitions status).any (·.string = target) then .ok ()
    else .error (ascii "invalid status transition: " ++ source ++ ascii " -> " ++ target)

lemma validateTransition_string (source target : Tunnel.TunnelStatus) :
    validateTransition source.string target.string = Tunnel.validateTransition source target := by
  cases source <;> cases target <;> rfl

lemma not_validateTransition_self (status : Bytes) : validateTransition status status ≠ .ok () := by
  simp only [validateTransition]
  split
  · simp
  · rename_i source hfind
    obtain rfl : source.string = status := by simpa using List.find?_some hfind
    cases source <;> decide

def statusChanges (s s' : Store) : List (TunnelRow × TunnelRow) :=
  (s.tunnels.zip s'.tunnels).filter fun p => p.1.status ≠ p.2.status

structure BatchRefines (handler : List Bytes → Store → Response × Store) (ids : List Bytes) (s : Store) :
    Prop where
  transitions : ∀ p ∈ statusChanges s (handler ids s).2, p.1.deletedAt = none →
    validateTransition p.1.status p.2.status = .ok ()
  success : (handler ids s).1 =
    batchResponse (statusChanges s (handler ids s).2).length ids.length

section Batch

variable (env : Env) (c : Caller)

/-- The ids name different tunnels of the caller's, and each may go over to the status. -/
def Startable (status : Bytes) (ids : List Bytes) (s : Store) : Prop :=
  (ids.filterMap (namedTunnel env c s)).Nodup ∧
    ∀ t ∈ s.tunnels, t.id ∈ ids.filterMap (namedTunnel env c s) →
      validateTransition t.status status = .ok ()

def marked (status : Bytes) (us : List Bytes) (t : TunnelRow) : TunnelRow :=
  if us.contains t.id then t.setStatus status else t

variable {env c} {s s' : Store} {status id u : Bytes} {us ids : List Bytes} {t : TunnelRow}

lemma marked_keeps : (marked status us t).id = t.id ∧
    (marked status us t).organizationID = t.organizationID ∧
    (marked status us t).deletedAt = t.deletedAt := by
  simp only [marked]
  split_ifs <;> exact ⟨rfl, rfl, rfl⟩

lemma marked_status : t.status ≠ (marked status us t).status ↔ t.id ∈ us ∧ t.status ≠ status := by
  simp only [marked, List.contains_iff_mem]
  split_ifs with h <;> simp [h, TunnelRow.setStatus]

lemma marked_marked : marked status us (marked status [u] t) = marked status (u :: us) t := by
  simp only [marked, List.contains_iff_mem, List.mem_cons]
  split_ifs <;> simp_all [TunnelRow.setStatus]

lemma namedTunnel_congr (h : s'.tunnels = s.tunnels.map (marked status us)) :
    namedTunnel env c s' = namedTunnel env c s := by
  funext id
  simp only [namedTunnel, h, List.mem_map, exists_exists_and_eq_and, marked_keeps]

lemma mem_of_namedTunnel (h : namedTunnel env c s id = some u) :
    ∃ t ∈ s.tunnels, t.id = u ∧ t.deletedAt = none := by
  simp only [namedTunnel] at h
  split_ifs at h
  split at h
  · split_ifs at h with hrow
    obtain ⟨t, ht, hid, -, hlive⟩ := hrow
    exact ⟨t, ht, hid.trans (Option.some.inj h), hlive⟩
  · cases h

lemma batchResponse_inj {n m total : ℕ} (h : batchResponse n total = batchResponse m total) : n = m := by
  simpa [batchResponse, jsonObj] using h

lemma foldl_batchStep (env : Env) (c : Caller) (status : Bytes) (ids : List Bytes) (n : ℕ) (s : Store) :
    (ids.foldl (batchStep env c status) (n, s)).1 =
      n + (ids.filterMap (namedTunnel env c s)).length ∧
    (ids.foldl (batchStep env c status) (n, s)).2.tunnels =
      s.tunnels.map (marked status (ids.filterMap (namedTunnel env c s))) := by
  induction ids generalizing n s with
  | nil =>
    have hnone : marked status [] = id := by
      funext t
      simp [marked]
    simp [hnone]
  | cons id ids ih =>
    rw [List.foldl_cons]
    cases hnamed : namedTunnel env c s id with
    | none =>
      have hstep : batchStep env c status (n, s) id = (n, s) := by
        simp [batchStep, updateTunnelStatus, hnamed]
      rw [hstep, List.filterMap_cons_none hnamed]
      exact ih n s
    | some u =>
      let s' := s.updateTunnel u (.setStatus status) fun _ => rfl
      have hstep : batchStep env c status (n, s) id = (n + 1, s') := by
        simp [batchStep, updateTunnelStatus, hnamed, s']
      have hrows : s'.tunnels = s.tunnels.map (marked status [u]) := by
        simp [s', Store.updateTunnel, update, marked]
      obtain ⟨hcount, htunnels⟩ := ih (n + 1) s'
      rw [namedTunnel_congr hrows] at hcount htunnels
      rw [hstep, List.filterMap_cons_some hnamed]
      refine ⟨by rw [hcount, List.length_cons]; omega, ?_⟩
      rw [htunnels, hrows, List.map_map]
      exact List.map_congr_left fun t _ => marked_marked

lemma statusChanges_eq (h : s'.tunnels = s.tunnels.map (marked status us)) :
    statusChanges s s' = (s.tunnels.filter fun t => t.id ∈ us ∧ t.status ≠ status).map
      fun t => (t, t.setStatus status) := by
  rw [statusChanges, h, ← List.map_prod_left_eq_zip, List.filter_map]
  have hfilter : s.tunnels.filter ((fun p : TunnelRow × TunnelRow => p.1.status ≠ p.2.status) ∘
      fun t => (t, marked status us t)) = s.tunnels.filter fun t => t.id ∈ us ∧ t.status ≠ status := by
    apply List.filter_congr
    intro t _
    exact decide_eq_decide.mpr marked_status
  rw [hfilter]
  apply List.map_congr_left
  intro t ht
  have hid : t.id ∈ us := by
    obtain ⟨-, hp⟩ := List.mem_filter.mp ht
    exact (of_decide_eq_true hp).1
  simp [marked, hid]

lemma batch_refines_iff_startable (status : String) :
    BatchRefines (handleBatch env c status) ids s ↔ Startable env c (ascii status) ids s := by
  let us := ids.filterMap (namedTunnel env c s)
  obtain ⟨hcount, hrows⟩ := foldl_batchStep env c (ascii status) ids 0 s
  have hnamed : us ⊆ s.tunnels.map TunnelRow.id := by
    intro u hu
    obtain ⟨id, -, hid⟩ := List.mem_filterMap.mp hu
    obtain ⟨t, ht, rfl, -⟩ := mem_of_namedTunnel hid
    exact List.mem_map_of_mem ht
  have hlive : ∀ t ∈ s.tunnels, t.id ∈ us → t.deletedAt = none := by
    intro t ht hu
    obtain ⟨id, -, hid⟩ := List.mem_filterMap.mp hu
    obtain ⟨t', ht', heq, hl⟩ := mem_of_namedTunnel hid
    exact List.inj_on_of_nodup_map s.tunnels_keyed ht' ht heq ▸ hl
  have hlisted := length_listed_iff (p := fun t : TunnelRow => t.status ≠ ascii status)
    s.tunnels_keyed hnamed fun t => decide_eq_true_iff
  have hchanges : statusChanges s (handleBatch env c status ids s).2 = _ := statusChanges_eq hrows
  have hlength : (statusChanges s (handleBatch env c status ids s).2).length =
      (s.tunnels.filter fun t => t.id ∈ us ∧ t.status ≠ ascii status).length := by
    rw [hchanges, List.length_map]
  have hresponse : (handleBatch env c status ids s).1 = batchResponse us.length ids.length := by
    simp only [handleBatch, batchUpdate, hcount, Nat.zero_add, us]
  constructor
  · rintro ⟨htransitions, hsuccess⟩
    have hall := batchResponse_inj (hresponse.symm.trans hsuccess)
    obtain ⟨hdistinct, hchanged⟩ := hlisted.mp (hlength.symm.trans hall.symm)
    refine ⟨hdistinct, fun t ht hu => ?_⟩
    have hmem : (t, t.setStatus (ascii status)) ∈ statusChanges s (handleBatch env c status ids s).2 := by
      rw [hchanges]
      exact List.mem_map_of_mem (List.mem_filter.mpr ⟨ht, decide_eq_true ⟨hu, hchanged t ht hu⟩⟩)
    exact htransitions _ hmem (hlive t ht hu)
  · rintro ⟨hdistinct, hvalid⟩
    have hchanged : ∀ t ∈ s.tunnels, t.id ∈ us → t.status ≠ ascii status := by
      intro t ht hu heq
      exact not_validateTransition_self _ (heq ▸ hvalid t ht hu)
    refine ⟨fun p hp _ => ?_, ?_⟩
    · rw [hchanges] at hp
      obtain ⟨t, ht, rfl⟩ := List.mem_map.mp hp
      obtain ⟨hmem, hsel⟩ := List.mem_filter.mp ht
      exact hvalid t hmem (of_decide_eq_true hsel).1
    · rw [hresponse, hlength, hlisted.mpr ⟨hdistinct, hchanged⟩]

end Batch

theorem batch_refines_iff (env : Env) (c : Caller) (ids : List Bytes) (s : Store) :
    (BatchRefines (handleBatchStartTunnels env c) ids s ↔
      Startable env c (ascii "active") ids s) ∧
    (BatchRefines (handleBatchStopTunnels env c) ids s ↔
      Startable env c (ascii "stopped") ids s) :=
  ⟨batch_refines_iff_startable "active", batch_refines_iff_startable "stopped"⟩

def exampleTunnel : TunnelRow where
  id := ascii "t1"
  organizationID := ascii "org1"
  name := ascii "web"
  slug := ascii "web"
  protocol := ascii "http"
  localPort := 3000
  customDomain := none
  status := ascii "stopped"
  bytesInTotal := 0
  bytesOutTotal := 0
  createdAt := 0
  deletedAt := none

def exampleBatch : Env where
  available := true
  uuidIn := some
  inserts _ := true
  now := 0
  formatTime _ := []
  uuidStr := []

theorem batch_refines_fails :
    let s : Store := ⟨[exampleTunnel], [], .empty, [], [], by decide, List.nodup_nil⟩
    let c : Caller := ⟨ascii "org1", ascii "ann", ascii "10.0.0.1"⟩
    ¬ BatchRefines (handleBatchStartTunnels exampleBatch c) [ascii "t1"] s ∧
      (handleBatchStartTunnels exampleBatch c [ascii "t1", ascii "t1"] s).1 = batchResponse 2 2 := by
  refine ⟨fun h => ?_, rfl⟩
  have hstart := (batch_refines_iff_startable "active").mp h
  exact absurd (hstart.2 exampleTunnel (by decide) (by decide)) (by decide)

end OmniTun.Api
