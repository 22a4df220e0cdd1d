import OmniTun.Foundation.Processes
import OmniTun.Tunnel.Repository

/-! Requests to start and to stop one tunnel, each a sequence of calls of the repository. -/

namespace OmniTun.Tunnel.Lifecycle

open OmniTun.Foundation OmniTun.Foundation.Transition OmniTun.Foundation.Processes

inductive Request
  | start
  | stop
  deriving DecidableEq, Repr

namespace Request

def source : Request → TunnelStatus
  | .start => .stopped
  | .stop => .active

def target : Request → TunnelStatus
  | .start => .starting
  | .stop => .stopped

def verb : Request → Bytes
  | .start => ascii "start"
  | .stop => ascii "stop"

def eventType (r : Request) : Bytes := ascii "agent.command." ++ r.verb

def message (r : Request) : Bytes := ascii "tunnel " ++ r.verb ++ ascii " initiated"

def invalidStatus (r : Request) (status : TunnelStatus) : RpcError where
  code := .failedPrecondition
  message := ascii "tunnel status is " ++ status.string ++ ascii ", must be " ++ r.source.string ++
    ascii " to " ++ r.verb

end Request

structure Response where
  message : Bytes
  relayAddress : Bytes
  deriving DecidableEq

inductive Local
  | received
  | checked (t : Tunnel)
  | updated (t : Tunnel)
  | published (t : Tunnel)
  | done (result : Except RpcError Response)

/-- The tunnel as it is stored. `changes` are the changes of its status, `starts` the requests that
have started it since it last was stopped, and `events` what has been published, and for whom. -/
structure Store (ι : Type*) where
  tunnel : Tunnel
  relays : Table Bytes RelayNode
  changes : List (TunnelStatus × TunnelStatus)
  starts : List ι
  events : List (ι × TunnelEvent)

variable {ι : Type*}

def Store.updateTunnelStatus (s : Store ι) (i : ι) (r : Request) : Store ι where
  tunnel := { s.tunnel with status := r.target }
  relays := s.relays
  changes :=
    if s.tunnel.status = r.target then s.changes
    else s.changes ++ [(s.tunnel.status, r.target)]
  starts :=
    match r with
    | .start => s.starts ++ [i]
    | .stop => []
  events := s.events

def Store.relayAddress (s : Store ι) (t : Tunnel) : Bytes :=
  match s.relays.lookup t.relayID with
  | none => []
  | some relay => relay.address

/-- `StartTunnel` and `StopTunnel`, call by call; `err` is the error of the call. -/
def next (request : ι → Request) (i : ι) (err : Option Bytes) (l : Local) (s : Store ι) :
    Option (Local × Store ι) :=
  match l, err with
  | .received, none =>
    if s.tunnel.id = [] then some (.done (.error (required (ascii "tunnel_id"))), s)
    else if s.tunnel.status ≠ (request i).source then
      some (.done (.error ((request i).invalidStatus s.tunnel.status)), s)
    else some (.checked s.tunnel, s)
  | .received, some _ =>
    if s.tunnel.id = [] then some (.done (.error (required (ascii "tunnel_id"))), s)
    else some (.done (.error errTunnelNotFound), s)
  | .checked t, none => some (.updated t, s.updateTunnelStatus i (request i))
  | .checked _, some e =>
    some (.done (.error ⟨.internal, ascii "update tunnel status: " ++ e⟩), s)
  | .updated t, none =>
    some (.published t, { s with events := s.events ++ [(i, ⟨(request i).eventType, t⟩)] })
  -- a failure to publish is only logged
  | .updated t, some _ => some (.published t, s)
  | .published t, err =>
    match request i with
    | .start =>
      let relayAddress := if t.relayID = [] ∨ err ≠ none then [] else s.relayAddress t
      some (.done (.ok ⟨(request i).message, relayAddress⟩), s)
    | .stop => some (.done (.ok ⟨(request i).message, []⟩), s)
  | .done _, _ => none

def start (t : Tunnel) (relays : Table Bytes RelayNode) : World ι Local (Store ι) :=
  ⟨fun _ => .received, ⟨t, relays, [], [], []⟩⟩

structure Lawful (s : Store ι) : Prop where
  changes : ∀ c ∈ s.changes, validateTransition c.1 c.2 = .ok ()
  starts : s.starts.length ≤ 1
  published : (s.events.map Prod.fst).Nodup

/-- When a request writes its status, the stored one still allows for it. -/
def Timely (request : ι → Request) (w : World ι Local (Store ι)) (a : ι × Option Bytes) : Prop :=
  match w.locals a.1, a.2, request a.1 with
  | .checked _, none, .start => w.store.tunnel.status = .stopped
  | .checked _, none, .stop => w.store.tunnel.status ≠ .starting
  | _, _, _ => True

def Local.early : Local → Bool
  | .received | .checked _ | .updated _ => true
  | _ => false

structure Shared (s : Store ι) : Prop where
  published : (s.events.map Prod.fst).Nodup
  stopped : s.tunnel.status = .stopped → s.starts = []

structure Own (request : ι → Request) (i : ι) (l : Local) (s : Store ι) : Prop where
  checked : ∀ t, l = .checked t → request i = .start →
    s.tunnel.status = .stopped ∨ s.tunnel.status = .starting ∧ s.starts ≠ []
  unpublished : l.early = true → i ∉ s.events.map Prod.fst

section Steps

variable {request : ι → Request} {i j : ι} {err : Option Bytes} {l l' m : Local} {s s' : Store ι}

lemma next_cases (h : next request i err l s = some (l', s')) :
    (∃ t, l = .checked t ∧ err = none ∧ l' = .updated t ∧
      s' = s.updateTunnelStatus i (request i)) ∨
    (∃ t, l = .updated t ∧ l' = .published t ∧
      s' = { s with events := s.events ++ [(i, ⟨(request i).eventType, t⟩)] }) ∨
    s' = s ∧ (∀ t, l' = .checked t → s.tunnel.status = (request i).source) ∧
      (l'.early = true → l.early = true) ∧ ¬ (∃ t, l = .checked t ∧ err = none) := by
  cases l with
  | received =>
    refine .inr (.inr ?_)
    cases err with
    | none =>
      simp only [next] at h
      split_ifs at h with hid hst <;> obtain ⟨rfl, rfl⟩ := Prod.mk.inj (Option.some.inj h)
      · simp [Local.early]
      · simp [Local.early]
      · exact ⟨rfl, fun _ _ => not_not.mp hst, by simp [Local.early], by simp⟩
    | some e =>
      simp only [next] at h
      split_ifs at h with hid <;> obtain ⟨rfl, rfl⟩ := Prod.mk.inj (Option.some.inj h)
      · simp [Local.early]
      · simp [Local.early]
  | checked t =>
    cases err with
    | none =>
      obtain ⟨rfl, rfl⟩ := Prod.mk.inj (Option.some.inj h)
      exact .inl ⟨t, rfl, rfl, rfl, rfl⟩
    | some e =>
      obtain ⟨rfl, rfl⟩ := Prod.mk.inj (Option.some.inj h)
      exact .inr (.inr (by simp [Local.early]))
  | updated t =>
    cases err with
    | none =>
      obtain ⟨rfl, rfl⟩ := Prod.mk.inj (Option.some.inj h)
      exact .inr (.inl ⟨t, rfl, rfl, rfl⟩)
    | some e =>
      obtain ⟨rfl, rfl⟩ := Prod.mk.inj (Option.some.inj h)
      exact .inr (.inr (by simp [Local.early]))
  | published t =>
    refine .inr (.inr ?_)
    simp only [next] at h
    cases hr : request i <;> simp only [hr, Option.some.injEq, Prod.mk.injEq] at h <;>
      obtain ⟨rfl, rfl⟩ := h <;> simp [Local.early]
  | done result => cases h

lemma updateTunnelStatus_settled (r : Request) :
    (s.updateTunnelStatus i r).tunnel.status = .stopped ∨
      (s.updateTunnelStatus i r).tunnel.status = .starting ∧ (s.updateTunnelStatus i r).starts ≠ [] := by
  cases r with
  | start => exact .inr ⟨rfl, by simp [Store.updateTunnelStatus]⟩
  | stop => exact .inl rfl

lemma updateTunnelStatus_stopped {r : Request}
    (h : (s.updateTunnelStatus i r).tunnel.status = .stopped) :
    (s.updateTunnelStatus i r).starts = [] := by
  cases r with
  | start => cases h
  | stop => rfl

lemma nonInterfering (request : ι → Request) :
    NonInterfering (next request) Shared (Own request) where
  own := by
    intro i err l s l' s' hs ho h
    rcases next_cases h with ⟨t, rfl, _, rfl, rfl⟩ | ⟨t, rfl, rfl, rfl⟩ | ⟨rfl, hst, hearly, _⟩
    · exact ⟨⟨hs.published, updateTunnelStatus_stopped⟩, by simp, fun _ => ho.unpublished rfl⟩
    · refine ⟨⟨?_, hs.stopped⟩, by simp, by simp [Local.early]⟩
      rw [List.map_append, List.map_singleton, List.nodup_append_comm]
      exact List.nodup_cons.mpr ⟨ho.unpublished rfl, hs.published⟩
    · refine ⟨hs, ?_, fun hl => ho.unpublished (hearly hl)⟩
      intro t ht hr
      exact .inl ((hst t ht).trans (by rw [hr]; rfl))
  other := by
    intro i j err l m s l' s' hij _ _ ho h
    rcases next_cases h with ⟨t, rfl, _, rfl, rfl⟩ | ⟨t, rfl, rfl, rfl⟩ | ⟨rfl, _⟩
    · exact ⟨fun _ _ _ => updateTunnelStatus_settled _, ho.unpublished⟩
    · refine ⟨ho.checked, fun hm => ?_⟩
      simp only [List.map_append, List.map_singleton, List.mem_append, List.mem_singleton, not_or]
      exact ⟨ho.unpublished hm, Ne.symm hij⟩
    · exact ho

lemma mem_changes {r : Request} {c : TunnelStatus × TunnelStatus} :
    c ∈ (s.updateTunnelStatus i r).changes ↔
      c ∈ s.changes ∨ s.tunnel.status ≠ r.target ∧ c = (s.tunnel.status, r.target) := by
  simp only [Store.updateTunnelStatus]
  split_ifs with h <;> simp [h]

lemma lawful_start {t : Tunnel} (hs : Lawful s) (hsh : Shared s)
    (ho : Own request i (.checked t) s) (hr : request i = .start) :
    Lawful (s.updateTunnelStatus i .start) ↔ s.tunnel.status = .stopped := by
  rcases ho.checked t rfl hr with hst | ⟨hst, hne⟩
  · refine iff_of_true ⟨?_, ?_, hs.published⟩ hst
    · intro c hc
      rcases mem_changes.mp hc with hc | ⟨_, rfl⟩
      · exact hs.changes c hc
      · rw [hst]
        rfl
    · simp [Store.updateTunnelStatus, hsh.stopped hst]
  · refine iff_of_false ?_ (by simp [hst])
    intro ht
    have hlen := ht.starts
    simp only [Store.updateTunnelStatus, List.length_append, List.length_singleton] at hlen
    have hpos := List.length_pos_iff.mpr hne
    omega

lemma lawful_stop (hs : Lawful s) :
    Lawful (s.updateTunnelStatus i .stop) ↔ s.tunnel.status ≠ .starting := by
  constructor
  · intro ht hst
    have hc := ht.changes _ (mem_changes.mpr (.inr ⟨by simp [hst, Request.target], rfl⟩))
    rw [validateTransition_eq_ok, hst] at hc
    exact absurd hc (by decide)
  · intro hst
    refine ⟨?_, by simp [Store.updateTunnelStatus], hs.published⟩
    intro c hc
    rcases mem_changes.mp hc with hc | ⟨hne, rfl⟩
    · exact hs.changes c hc
    · rw [validateTransition_eq_ok]
      revert hst hne
      cases s.tunnel.status <;> simp [validTransitions, Request.target]

lemma lawful_next {w : World ι Local (Store ι)} (hw : Holds Shared (Own request) w)
    (hs : Lawful w.store) (h : next request i err (w.locals i) w.store = some (l', s')) :
    Lawful s' ↔ Timely request w (i, err) := by
  obtain ⟨hsh, hown⟩ := hw
  rcases next_cases h with ⟨t, hl, rfl, _, rfl⟩ | ⟨t, hl, _, rfl⟩ | ⟨rfl, _, _, hno⟩
  · cases hr : request i with
    | start =>
      simp only [Timely, hl, hr]
      exact lawful_start hs hsh (hl ▸ hown i) hr
    | stop =>
      simp only [Timely, hl, hr]
      exact lawful_stop hs
  · simp only [Timely, hl]
    refine iff_of_true ⟨hs.changes, hs.starts, ?_⟩ trivial
    rw [List.map_append, List.map_singleton, List.nodup_append_comm]
    exact List.nodup_cons.mpr ⟨(hown i).unpublished (by rw [hl]; rfl), hsh.published⟩
  · refine iff_of_true hs ?_
    simp only [Timely]
    split
    next t hl hr => exact absurd ⟨t, hl, rfl⟩ hno
    next t hl hr => exact absurd ⟨t, hl, rfl⟩ hno
    next => trivial

end Steps

theorem lifecycle_lawful [DecidableEq ι] (request : ι → Request) (t : Tunnel) (relays : Table Bytes RelayNode)
    (as : List (ι × Option Bytes)) :
    Always (step (next request)) (fun w => Lawful w.store) (start t relays) as ↔
      Guarded (step (next request)) (Timely request) (start t relays) as := by
  apply (nonInterfering request).always_iff_guarded
  · exact ⟨by simp [start], by simp [start], by simp [start]⟩
  · exact ⟨⟨by simp [start], fun _ => rfl⟩, fun i => ⟨by simp [start], by simp [start]⟩⟩
  · intro w i err l s hw hs h
    exact lawful_next hw hs h

def exampleTunnel (status : TunnelStatus) : Tunnel where
  id := ascii "t1"
  name := ascii "web"
  slug := ascii "a1b2c3d4"
  workspaceID := ascii "ws-1"
  protocol := ascii "http"
  localPort := 8080
  localHost := ascii "127.0.0.1"
  customDomain := []
  region := []
  tlsMode := ascii "edge"
  authMode := ascii "none"
  status := status
  relayID := []
  createdAt := 0
  updatedAt := 0

theorem lifecycle_lawful_fails :
    (∃ w, run (step (next fun _ : Bool => .start)) (start (exampleTunnel .stopped) ∅)
        [(false, none), (true, none), (false, none), (true, none), (false, none), (true, none)] =
          some w ∧
      w.store.starts = [false, true] ∧
      w.store.events.map (fun e => e.2.eventType) =
        [ascii "agent.command.start", ascii "agent.command.start"]) ∧
    ∃ w, run (step (next fun i : Fin 3 => if i = 1 then .start else .stop))
        (start (exampleTunnel .active) ∅)
        [(0, none), (2, none), (0, none), (1, none), (1, none), (2, none)] = some w ∧
      (TunnelStatus.starting, TunnelStatus.stopped) ∈ w.store.changes ∧
      validateTransition .starting .stopped ≠ .ok () := by
  refine ⟨⟨_, rfl, rfl, rfl⟩, _, rfl, ?_, ?_⟩
  · decide
  · simp [validateTransition, validTransitions]

end OmniTun.Tunnel.Lifecycle
