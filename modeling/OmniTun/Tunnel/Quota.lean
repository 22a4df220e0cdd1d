import OmniTun.Foundation.Processes
import OmniTun.Tunnel.Repository

/-! Requests to create tunnels, each a sequence of calls of the repository, and the quota of a
workspace. -/

namespace OmniTun.Tunnel.Quota

open OmniTun.Foundation OmniTun.Foundation.Numerals OmniTun.Foundation.Transition
  OmniTun.Foundation.Processes

structure CreateTunnelRequest where
  workspaceID : Bytes
  name : Bytes
  protocol : Bytes
  localPort : ℤ := 0
  localHost : Bytes := []
  customDomain : Bytes := []
  tlsMode : Bytes := []
  authMode : Bytes := []
  deriving DecidableEq

def defaultMaxTunnelsPerWorkspace : ℤ := 25

def slugLength : ℕ := 8

def charset : Bytes := ascii "abcdefghijklmnopqrstuvwxyz0123456789"

/-- `draw` are the random indexes into the character set. -/
def generateSlug (draw : Fin slugLength → Fin 36) : Bytes :=
  List.ofFn fun i => charset.getD (draw i) 0

def maxTunnels (quotaChecker : Option (Bytes → Option ℤ)) (workspaceID : Bytes) : ℤ :=
  match quotaChecker with
  | none => defaultMaxTunnelsPerWorkspace
  | some getMaxTunnels =>
    match getMaxTunnels workspaceID with
    | none => defaultMaxTunnelsPerWorkspace
    | some quotaMax => if 0 < quotaMax then quotaMax else defaultMaxTunnelsPerWorkspace

/-- The candidates are sorted by their load as a floating point number; `pick` says which one comes
first. -/
def selectRelay (relays : List RelayNode) (pick : ℕ) : Except Bytes RelayNode :=
  let candidates := relays.filter fun r => r.activeTunnels < r.capacity
  match candidates[pick % candidates.length]? with
  | none => .error (ascii "relay selector: no available relay nodes")
  | some relay => .ok relay

def orDefault (value fallback : Bytes) : Bytes := if value = [] then fallback else value

def newTunnel (req : CreateTunnelRequest) (slug : Bytes) (relay : RelayNode) (now : ℤ) : Tunnel where
  id := []
  name := req.name
  slug := slug
  workspaceID := req.workspaceID
  protocol := req.protocol
  localPort := req.localPort
  localHost := orDefault req.localHost (ascii "127.0.0.1")
  customDomain := req.customDomain
  region := relay.region
  tlsMode := orDefault req.tlsMode (ascii "edge")
  authMode := orDefault req.authMode (ascii "none")
  status := .stopped
  relayID := relay.id
  createdAt := now
  updatedAt := now

/-- What a step meets: the error of its call, if any, and what the call draws or returns. -/
structure Outcome where
  err : Option Bytes := none
  draw : Fin slugLength → Fin 36 := fun _ => 0
  relays : List RelayNode := []
  pick : ℕ := 0
  now : ℤ := 0
  id : Bytes := []

/-- Where a request stands. Past its check it carries the number of tunnels that it counted, and
after how many rows it did. -/
inductive Local
  | received
  | counted (count mark : ℕ)
  | slugged (slug : Bytes) (count mark : ℕ)
  | placed (t : Tunnel) (count mark : ℕ)
  | created (t : Tunnel)
  | done (result : Except RpcError Tunnel)

structure Store where
  rows : List Tunnel
  events : List TunnelEvent

def countTunnelsByWorkspace (rows : List Tunnel) (workspaceID : Bytes) : ℕ :=
  rows.countP fun t => t.workspaceID = workspaceID

def quotaExceeded (count : ℕ) (limit : ℤ) : RpcError where
  code := .resourceExhausted
  message := ascii "workspace has " ++ natNumeral count ++ ascii " tunnels (limit: " ++
    intNumeral limit ++ ascii ")"

section

variable {ι : Type*} (quotaChecker : Option (Bytes → Option ℤ)) (request : ι → CreateTunnelRequest)

def checkQuota (workspaceID : Bytes) (err : Option Bytes) (rows : List Tunnel) : Except RpcError ℕ :=
  match err with
  | some e => .error ⟨.internal, ascii "count tunnels: " ++ e⟩
  | none =>
    let count := countTunnelsByWorkspace rows workspaceID
    let limit := maxTunnels quotaChecker workspaceID
    if limit ≤ count then .error (quotaExceeded count limit) else .ok count

def receive (req : CreateTunnelRequest) (err : Option Bytes) (rows : List Tunnel) : Local :=
  if req.workspaceID = [] then .done (.error (required (ascii "workspace_id")))
  else if req.name = [] then .done (.error (required (ascii "name")))
  else if req.protocol = [] then .done (.error (required (ascii "protocol")))
  else
    match checkQuota quotaChecker req.workspaceID err rows with
    | .error e => .done (.error e)
    | .ok count => .counted count rows.length

def next (i : ι) (o : Outcome) (l : Local) (s : Store) : Option (Local × Store) :=
  match l with
  | .received => some (receive quotaChecker (request i) o.err s.rows, s)
  | .counted count mark =>
    match o.err with
    | some e => some (.done (.error ⟨.internal, ascii "generate slug: " ++ e⟩), s)
    | none => some (.slugged (generateSlug o.draw) count mark, s)
  | .slugged slug count mark =>
    match o.err with
    | some e => some (.done (.error ⟨.unavailable,
        ascii "select relay: relay selector: get active relays: " ++ e⟩), s)
    | none =>
      match selectRelay o.relays o.pick with
      | .error e => some (.done (.error ⟨.unavailable, ascii "select relay: " ++ e⟩), s)
      | .ok relay => some (.placed (newTunnel (request i) slug relay o.now) count mark, s)
  | .placed t _ _ =>
    match o.err with
    | some e => some (.done (.error ⟨.internal, ascii "create tunnel: " ++ e⟩), s)
    | none => some (.created { t with id := o.id }, { s with rows := s.rows ++ [{ t with id := o.id }] })
  | .created t =>
    match o.err with
    -- a failure to publish is only logged
    | some _ => some (.done (.ok t), s)
    | none => some (.done (.ok t), { s with events := s.events ++ [⟨ascii "tunnel.created", t⟩] })
  | .done _ => none

def start (rows : List Tunnel) : World ι Local Store := ⟨fun _ => .received, ⟨rows, []⟩⟩

def Within (workspaceID : Bytes) (s : Store) : Prop :=
  (countTunnelsByWorkspace s.rows workspaceID : ℤ) ≤ maxTunnels quotaChecker workspaceID

def Local.check : Local → Option (ℕ × ℕ)
  | .placed _ count mark => some (count, mark)
  | _ => none

/-- When a request creates its tunnel, what it counted and the tunnels that others have created in
the workspace since are together below the limit. -/
def Timely (workspaceID : Bytes) (w : World ι Local Store) (a : ι × Outcome) : Prop :=
  ∀ c ∈ (w.locals a.1).check, a.2.err = none → (request a.1).workspaceID = workspaceID →
    ((c.1 + countTunnelsByWorkspace (w.store.rows.drop c.2) workspaceID : ℕ) : ℤ) <
      maxTunnels quotaChecker workspaceID

instance (workspaceID : Bytes) (w : World ι Local Store) (a : ι × Outcome) :
    Decidable (Timely quotaChecker request workspaceID w a) :=
  inferInstanceAs (Decidable (∀ c ∈ (w.locals a.1).check, _))

def Checked (req : CreateTunnelRequest) (count mark : ℕ) (rows : List Tunnel) : Prop :=
  mark ≤ rows.length ∧ count = countTunnelsByWorkspace (rows.take mark) req.workspaceID

def Own (i : ι) (l : Local) (s : Store) : Prop :=
  match l with
  | .counted count mark | .slugged _ count mark => Checked (request i) count mark s.rows
  | .placed t count mark =>
    Checked (request i) count mark s.rows ∧ t.workspaceID = (request i).workspaceID
  | _ => True

end

section Steps

variable {ι : Type*} {quotaChecker : Option (Bytes → Option ℤ)} {request : ι → CreateTunnelRequest}
  {i j : ι} {o : Outcome} {l l' : Local} {s s' : Store} {req : CreateTunnelRequest}
  {workspaceID : Bytes} {rows : List Tunnel} {count mark : ℕ} {t : Tunnel}

lemma countTunnelsByWorkspace_append (rows rows' : List Tunnel) :
    countTunnelsByWorkspace (rows ++ rows') workspaceID =
      countTunnelsByWorkspace rows workspaceID + countTunnelsByWorkspace rows' workspaceID :=
  List.countP_append

lemma countTunnelsByWorkspace_singleton :
    countTunnelsByWorkspace [t] workspaceID = if t.workspaceID = workspaceID then 1 else 0 := by
  simp [countTunnelsByWorkspace, List.countP_singleton]

lemma Checked.append (h : Checked req count mark rows) (rows' : List Tunnel) :
    Checked req count mark (rows ++ rows') := by
  refine ⟨?_, ?_⟩
  · rw [List.length_append]
    exact Nat.le_add_right_of_le h.1
  · rw [List.take_append_of_le_length h.1]
    exact h.2

lemma Checked.count_eq (h : Checked req count mark rows) :
    countTunnelsByWorkspace rows req.workspaceID =
      count + countTunnelsByWorkspace (rows.drop mark) req.workspaceID := by
  rw [h.2, ← countTunnelsByWorkspace_append, List.take_append_drop]

lemma Own.append (h : Own request i l s) (rows' : List Tunnel) (events : List TunnelEvent) :
    Own request i l ⟨s.rows ++ rows', events⟩ := by
  cases l with
  | received => trivial
  | counted count mark => exact Checked.append h rows'
  | slugged slug count mark => exact Checked.append h rows'
  | placed t count mark => exact ⟨h.1.append rows', h.2⟩
  | created t => trivial
  | done result => trivial

lemma checkQuota_ok {err : Option Bytes}
    (h : checkQuota quotaChecker workspaceID err rows = .ok count) :
    count = countTunnelsByWorkspace rows workspaceID := by
  cases err with
  | some e => cases h
  | none =>
    simp only [checkQuota] at h
    split_ifs at h
    exact (Except.ok.inj h).symm

lemma receive_own : Own request i (receive quotaChecker (request i) o.err s.rows) s := by
  simp only [receive]
  split_ifs
  · trivial
  · trivial
  · trivial
  · cases hc : checkQuota quotaChecker (request i).workspaceID o.err s.rows with
    | error e => trivial
    | ok count => exact ⟨le_refl _, by rw [List.take_length]; exact checkQuota_ok hc⟩

lemma next_of_err {e : Bytes} (he : o.err = some e) (hl : l ≠ .received)
    (h : next quotaChecker request i o l s = some (l', s')) : s' = s ∧ ∃ r, l' = .done r := by
  cases l with
  | received => exact absurd rfl hl
  | done result => cases h
  | counted | slugged | placed | created =>
    simp only [next, he, Option.some.injEq, Prod.mk.injEq] at h
    exact ⟨h.2.symm, _, h.1.symm⟩

lemma next_cases (h : next quotaChecker request i o l s = some (l', s')) :
    (∃ t count mark, l = .placed t count mark ∧ o.err = none ∧ l' = .created { t with id := o.id } ∧
      s' = { s with rows := s.rows ++ [{ t with id := o.id }] }) ∨
    s'.rows = s.rows ∧ (l.check = none ∨ o.err ≠ none) ∧
      (Own request i l s → Own request i l' s') := by
  by_cases hl : l = .received
  · subst hl
    obtain ⟨rfl, rfl⟩ := Prod.mk.inj (Option.some.inj h)
    exact .inr ⟨rfl, .inl rfl, fun _ => receive_own⟩
  cases he : o.err with
  | some e =>
    obtain ⟨rfl, r, rfl⟩ := next_of_err he hl h
    exact .inr ⟨rfl, .inr (by simp), fun _ => trivial⟩
  | none =>
    cases l with
    | received => exact absurd rfl hl
    | counted count mark =>
      simp only [next, he, Option.some.injEq, Prod.mk.injEq] at h
      obtain ⟨rfl, rfl⟩ := h
      exact .inr ⟨rfl, .inl rfl, fun ho => ho⟩
    | slugged slug count mark =>
      cases hr : selectRelay o.relays o.pick with
      | error e =>
        simp only [next, he, hr, Option.some.injEq, Prod.mk.injEq] at h
        obtain ⟨rfl, rfl⟩ := h
        exact .inr ⟨rfl, .inl rfl, fun _ => trivial⟩
      | ok relay =>
        simp only [next, he, hr, Option.some.injEq, Prod.mk.injEq] at h
        obtain ⟨rfl, rfl⟩ := h
        exact .inr ⟨rfl, .inl rfl, fun ho => ⟨ho, rfl⟩⟩
    | placed t count mark =>
      simp only [next, he, Option.some.injEq, Prod.mk.injEq] at h
      obtain ⟨rfl, rfl⟩ := h
      exact .inl ⟨t, count, mark, rfl, rfl, rfl, rfl⟩
    | created t =>
      simp only [next, he, Option.some.injEq, Prod.mk.injEq] at h
      obtain ⟨rfl, rfl⟩ := h
      exact .inr ⟨rfl, .inl rfl, fun _ => trivial⟩
    | done result => cases h

lemma nonInterfering (quotaChecker : Option (Bytes → Option ℤ))
    (request : ι → CreateTunnelRequest) :
    NonInterfering (next quotaChecker request) (fun _ => True) (Own request) where
  own := by
    intro i o l s l' s' _ ho h
    refine ⟨trivial, ?_⟩
    rcases next_cases h with ⟨t, count, mark, rfl, _, rfl, rfl⟩ | ⟨_, _, hown⟩
    · trivial
    · exact hown ho
  other := by
    intro i j o l m s l' s' _ _ _ ho h
    rcases next_cases h with ⟨t, count, mark, rfl, _, rfl, rfl⟩ | ⟨hrows, _⟩
    · exact ho.append _ _
    · have happ := ho.append [] s'.events
      rw [List.append_nil, ← hrows] at happ
      exact happ

lemma within_next {w : World ι Local Store} (hw : Holds (fun _ => True) (Own request) w)
    (hin : Within quotaChecker workspaceID w.store)
    (h : next quotaChecker request i o (w.locals i) w.store = some (l', s')) :
    Within quotaChecker workspaceID s' ↔ Timely quotaChecker request workspaceID w (i, o) := by
  rcases next_cases h with ⟨t, count, mark, hl, he, _, rfl⟩ | ⟨hrows, hno, _⟩
  · have ho := hw.2 i
    rw [hl] at ho
    obtain ⟨hchk, hws⟩ := ho
    simp only [Within, Timely, hl, he, Local.check, Option.mem_def, Option.some.injEq,
      forall_eq', forall_const, countTunnelsByWorkspace_append, countTunnelsByWorkspace_singleton,
      hws]
    by_cases heq : (request i).workspaceID = workspaceID
    · subst heq
      rw [if_pos rfl, ← hchk.count_eq]
      simp only [forall_const]
      omega
    · simp only [Within] at hin
      simp [heq, hin]
  · refine iff_of_true (by rw [Within, hrows]; exact hin) ?_
    intro c hc he
    rcases hno with hno | hno
    · rw [hno] at hc
      cases hc
    · exact absurd he hno

end Steps

section

variable {ι : Type*} [DecidableEq ι]

theorem quota_kept (quotaChecker : Option (Bytes → Option ℤ)) (request : ι → CreateTunnelRequest)
    (workspaceID : Bytes) (rows : List Tunnel) (as : List (ι × Outcome))
    (h : (countTunnelsByWorkspace rows workspaceID : ℤ) ≤ maxTunnels quotaChecker workspaceID) :
    Always (step (next quotaChecker request)) (fun w => Within quotaChecker workspaceID w.store)
        (start rows) as ↔
      Guarded (step (next quotaChecker request)) (Timely quotaChecker request workspaceID)
        (start rows) as := by
  apply (nonInterfering quotaChecker request).always_iff_guarded
  · exact h
  · exact ⟨trivial, fun _ => trivial⟩
  · intro w i o l s hw hin hn
    exact within_next hw hin hn

end

def exampleRequest (_ : Bool) : CreateTunnelRequest where
  workspaceID := ascii "ws-1"
  name := ascii "web"
  protocol := ascii "http"

def exampleRelay : RelayNode := ⟨ascii "r1", ascii "eu", ascii "relay.dev", 443, 0, 10⟩

def exampleOutcome : Outcome := { relays := [exampleRelay] }

def oneTunnel : Option (Bytes → Option ℤ) := some fun _ => some 1

theorem quota_kept_in_turn :
    Always (step (next oneTunnel exampleRequest))
      (fun w => Within oneTunnel (ascii "ws-1") w.store) (start [])
      ([false, false, false, false, true].map (·, exampleOutcome)) :=
  (quota_kept oneTunnel exampleRequest (ascii "ws-1") []
    ([false, false, false, false, true].map (·, exampleOutcome)) (by decide)).mpr (by decide)

theorem quota_kept_fails : ∃ w,
    run (step (next oneTunnel exampleRequest)) (start [])
      ([false, true, false, false, false, true, true, true].map (·, exampleOutcome)) = some w ∧
    (countTunnelsByWorkspace [] (ascii "ws-1") : ℤ) ≤ maxTunnels oneTunnel (ascii "ws-1") ∧
    ¬ Within oneTunnel (ascii "ws-1") w.store := by
  refine ⟨_, rfl, by decide, ?_⟩
  simp only [Within]
  decide

end OmniTun.Tunnel.Quota
