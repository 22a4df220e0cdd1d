import OmniTun.Tunnel.Lifecycle

/-! Requests that update fields of one tunnel, beside those that start and stop it: each reads the
tunnel, and writes the whole record or its status. -/

namespace OmniTun.Tunnel.Updates

open OmniTun.Foundation OmniTun.Foundation.Transition OmniTun.Foundation.Processes

structure TunnelRecord extends Tunnel where
  maxConnections : ℤ
  deriving DecidableEq

inductive Field
  | name
  | authMode
  | maxConnections
  | status
  deriving DecidableEq, Repr

namespace Field

abbrev Value : Field → Type
  | .name => Bytes
  | .authMode => Bytes
  | .maxConnections => ℤ
  | .status => TunnelStatus

def get : (f : Field) → TunnelRecord → f.Value
  | .name, t => t.name
  | .authMode, t => t.authMode
  | .maxConnections, t => t.maxConnections
  | .status, t => t.status

end Field

structure Patch where
  name : Option Bytes := none
  authMode : Option Bytes := none
  maxConnections : Option ℤ := none
  status : Option TunnelStatus := none

def Patch.sets (p : Patch) : (f : Field) → Option f.Value
  | .name => p.name
  | .authMode => p.authMode
  | .maxConnections => p.maxConnections
  | .status => p.status

structure UpdateTunnelRequest where
  name : Option Bytes
  authMode : Option Bytes
  maxConnections : Option ℤ

namespace UpdateTunnelRequest

variable (req : UpdateTunnelRequest)

def updated : Bool := req.name.isSome || req.authMode.isSome || req.maxConnections.isSome

def apply (t : TunnelRecord) : TunnelRecord :=
  { t with
    name := req.name.getD t.name
    authMode := req.authMode.getD t.authMode
    maxConnections := req.maxConnections.getD t.maxConnections }

def patch : Patch := { name := req.name, authMode := req.authMode, maxConnections := req.maxConnections }

end UpdateTunnelRequest

inductive Request
  | update (req : UpdateTunnelRequest)
  | status (r : Lifecycle.Request)

namespace Request

def updateError (r : Request) (err : Bytes) : RpcError where
  code := .internal
  message :=
    match r with
    | .update _ => ascii "update tunnel: " ++ err
    | .status _ => ascii "update tunnel status: " ++ err

def eventType : Request → Bytes
  | .update _ => ascii "tunnel.updated"
  | .status r => r.eventType

end Request

inductive Response
  | tunnel (t : TunnelRecord)
  | message (text : Bytes)

def Request.response (r : Request) (t : TunnelRecord) : Response :=
  match r with
  | .update _ => .tunnel t
  | .status r => .message r.message

inductive Local
  | received
  | writing (t : TunnelRecord)
  | written (t : TunnelRecord)
  | done (result : Except RpcError Response)

/-- The tunnel as it is stored; `commits` are the patches of the requests that have written. -/
structure Store where
  tunnel : TunnelRecord
  commits : List Patch
  events : List (Bytes × TunnelRecord)

namespace Store

variable (s : Store)

def updateTunnel (p : Patch) (t : TunnelRecord) : Store :=
  { s with tunnel := t, commits := s.commits ++ [p] }

def updateTunnelStatus (status : TunnelStatus) : Store :=
  { s with
    tunnel := { s.tunnel with status := status }
    commits := s.commits ++ [{ status := some status }] }

end Store

structure Answer where
  err : Option Bytes
  now : ℤ

variable {ι : Type*}

/-- `UpdateTunnel`, and `StartTunnel` and `StopTunnel` up to their event, call by call. -/
def next (request : ι → Request) (i : ι) (a : Answer) (l : Local) (s : Store) :
    Option (Local × Store) :=
  match l, request i, a.err with
  | .received, r, err =>
    if s.tunnel.id = [] then some (.done (.error (required (ascii "tunnel_id"))), s)
    else if err ≠ none then some (.done (.error errTunnelNotFound), s)
    else
      match r with
      | .update req =>
        if req.updated then some (.writing { req.apply s.tunnel with updatedAt := a.now }, s)
        else some (.done (.ok (.tunnel s.tunnel)), s)
      | .status r =>
        if s.tunnel.status ≠ r.source then some (.done (.error (r.invalidStatus s.tunnel.status)), s)
        else some (.writing s.tunnel, s)
  | .writing _, r, some err => some (.done (.error (r.updateError err)), s)
  | .writing t, .update req, none => some (.written t, s.updateTunnel req.patch t)
  | .writing t, .status r, none => some (.written t, s.updateTunnelStatus r.target)
  | .written t, r, none =>
    some (.done (.ok (r.response t)), { s with events := s.events ++ [(r.eventType, t)] })
  -- a failure to publish is only logged
  | .written t, r, some _ => some (.done (.ok (r.response t)), s)
  | .done _, _, _ => none

def start (t : TunnelRecord) : World ι Local Store := ⟨fun _ => .received, ⟨t, [], []⟩⟩

def Field.written (f : Field) (commits : List Patch) : List f.Value :=
  commits.filterMap fun p => p.sets f

def NoLostUpdate (s : Store) : Prop :=
  ∀ (f : Field) v, (f.written s.commits).getLast? = some v → f.get s.tunnel = v

/-- When a record is written, the fields that its request does not set are as they are stored. -/
def Current (request : ι → Request) (w : World ι Local Store) (a : ι × Answer) : Prop :=
  match w.locals a.1, request a.1, a.2.err with
  | .writing t, .update req, none =>
    ∀ f : Field, req.patch.sets f = none → f.get t = f.get w.store.tunnel
  | _, _, _ => True

def Untouched (t₀ : TunnelRecord) (s : Store) : Prop :=
  ∀ f : Field, f.written s.commits = [] → f.get s.tunnel = f.get t₀

def Own (t₀ : TunnelRecord) (request : ι → Request) (i : ι) (l : Local) (s : Store) : Prop :=
  ∀ t req, l = .writing t → request i = .update req → ∀ f : Field,
    (∀ v, req.patch.sets f = some v → f.get t = v) ∧
    (req.patch.sets f = none → f.written s.commits = [] → f.get t = f.get t₀)

section Steps

variable {t₀ t : TunnelRecord} {request : ι → Request} {i : ι} {a : Answer} {l l' : Local}
  {s s' : Store} {p : Patch} {f : Field}

lemma get_apply (req : UpdateTunnelRequest) (t : TunnelRecord) (now : ℤ) (f : Field) :
    f.get { req.apply t with updatedAt := now } = (req.patch.sets f).getD (f.get t) := by
  cases f <;> rfl

lemma get_status (t : TunnelRecord) (status : TunnelStatus) (f : Field) :
    f.get { t with status := status } =
      (({ status := some status } : Patch).sets f).getD (f.get t) := by
  cases f <;> rfl

lemma written_concat (f : Field) (commits : List Patch) (p : Patch) :
    f.written (commits ++ [p]) = f.written commits ++ (p.sets f).toList := by
  cases h : p.sets f <;> simp [Field.written, h]

lemma noLostUpdate_commit (hs : NoLostUpdate s) (hu : Untouched t₀ s)
    (hset : ∀ f v, p.sets f = some v → f.get t = v)
    (hinit : ∀ f, p.sets f = none → f.written s.commits = [] → f.get t = f.get t₀) :
    NoLostUpdate (s.updateTunnel p t) ↔
      ∀ f, p.sets f = none → f.get t = f.get s.tunnel := by
  constructor
  · intro h f hf
    cases hlast : (f.written s.commits).getLast? with
    | none =>
      have hnone : f.written s.commits = [] := List.getLast?_eq_none_iff.mp hlast
      exact (hinit f hf hnone).trans (hu f hnone).symm
    | some v =>
      have hv : f.get t = v := h f v (by simpa [Store.updateTunnel, written_concat, hf] using hlast)
      exact hv.trans (hs f v hlast).symm
  · intro h f v hv
    rw [Store.updateTunnel, written_concat] at hv
    cases hf : p.sets f with
    | some v' =>
      obtain rfl : v' = v := by simpa [hf] using hv
      exact hset f v' hf
    | none => exact (h f hf).trans (hs f v (by simpa [hf] using hv))

lemma untouched_commit (hinit : ∀ f, p.sets f = none → f.written s.commits = [] →
    f.get t = f.get t₀) : Untouched t₀ (s.updateTunnel p t) := by
  intro f hf
  rw [Store.updateTunnel, written_concat] at hf
  obtain ⟨hbefore, hnone⟩ := List.append_eq_nil_iff.mp hf
  exact hinit f (by simpa using hnone) hbefore

lemma next_cases (h : next request i a l s = some (l', s')) :
    (∃ t req, l = .writing t ∧ request i = .update req ∧ a.err = none ∧ l' = .written t ∧
      s' = s.updateTunnel req.patch t) ∨
    (∃ t r, l = .writing t ∧ request i = .status r ∧ l' = .written t ∧
      s' = s.updateTunnelStatus r.target) ∨
    s'.tunnel = s.tunnel ∧ s'.commits = s.commits ∧ (∀ t, l = .writing t → a.err ≠ none) ∧
      ∀ t req, l' = .writing t → request i = .update req →
        t = { req.apply s.tunnel with updatedAt := a.now } := by
  cases l with
  | received =>
    refine .inr (.inr ?_)
    simp only [next] at h
    split_ifs at h
    · obtain ⟨rfl, rfl⟩ := Prod.mk.inj (Option.some.inj h)
      simp
    · obtain ⟨rfl, rfl⟩ := Prod.mk.inj (Option.some.inj h)
      simp
    · cases hr : request i <;> simp only [hr] at h <;> split_ifs at h <;>
        obtain ⟨rfl, rfl⟩ := Prod.mk.inj (Option.some.inj h) <;> simp_all
  | writing t =>
    cases herr : a.err with
    | some err =>
      simp only [next, herr, Option.some.injEq, Prod.mk.injEq] at h
      obtain ⟨rfl, rfl⟩ := h
      exact .inr (.inr (by simp))
    | none =>
      cases hr : request i with
      | update req =>
        simp only [next, herr, hr, Option.some.injEq, Prod.mk.injEq] at h
        exact .inl ⟨t, req, rfl, rfl, rfl, h.1.symm, h.2.symm⟩
      | status r =>
        simp only [next, herr, hr, Option.some.injEq, Prod.mk.injEq] at h
        exact .inr (.inl ⟨t, r, rfl, rfl, h.1.symm, h.2.symm⟩)
  | written t =>
    refine .inr (.inr ?_)
    cases herr : a.err <;> simp only [next, herr, Option.some.injEq, Prod.mk.injEq] at h <;>
      obtain ⟨rfl, rfl⟩ := h <;> simp
  | done result => cases h

lemma updateTunnelStatus_eq (s : Store) (status : TunnelStatus) : s.updateTunnelStatus status =
    s.updateTunnel { status := some status } { s.tunnel with status := status } := rfl

lemma own_writing (hu : Untouched t₀ s) (req : UpdateTunnelRequest) (now : ℤ) (f : Field) :
    (∀ v, req.patch.sets f = some v → f.get { req.apply s.tunnel with updatedAt := now } = v) ∧
    (req.patch.sets f = none → f.written s.commits = [] →
      f.get { req.apply s.tunnel with updatedAt := now } = f.get t₀) := by
  rw [get_apply]
  refine ⟨fun v hv => by simp [hv], fun hnone hnew => ?_⟩
  rw [hnone]
  exact hu f hnew

lemma written_commits {commits : List Patch} (h : f.written (commits ++ [p]) = []) :
    f.written commits = [] := by
  rw [written_concat] at h
  exact (List.append_eq_nil_iff.mp h).1

lemma nonInterfering (t₀ : TunnelRecord) (request : ι → Request) :
    NonInterfering (next request) (Untouched t₀) (Own t₀ request) where
  own := by
    intro i a l s l' s' hu ho h
    rcases next_cases h with ⟨t, req, rfl, hr, -, rfl, rfl⟩ | ⟨t, r, rfl, hr, rfl, rfl⟩ |
      ⟨htunnel, hcommits, -, hwriting⟩
    · have hown := ho t req rfl hr
      exact ⟨untouched_commit fun f hf hn => (hown f).2 hf hn, by simp [Own]⟩
    · refine ⟨?_, by simp [Own]⟩
      rw [updateTunnelStatus_eq]
      apply untouched_commit
      intro f hf hn
      rw [get_status, hf]
      exact hu f hn
    · constructor
      · intro f hf
        rw [htunnel]
        exact hu f (hcommits ▸ hf)
      · intro t req ht hr f
        rw [hwriting t req ht hr, hcommits]
        exact own_writing hu req a.now f
  other := by
    intro i j a l m s l' s' _ _ _ ho h t req hm hr f
    obtain ⟨hset, hinit⟩ := ho t req hm hr f
    refine ⟨hset, fun hf hn => hinit hf ?_⟩
    rcases next_cases h with ⟨_, _, -, -, -, -, rfl⟩ | ⟨_, _, -, -, -, rfl⟩ | ⟨-, hcommits, -⟩
    · exact written_commits hn
    · exact written_commits hn
    · exact hcommits ▸ hn

lemma noLostUpdate_next {w : World ι Local Store} (hw : Holds (Untouched t₀) (Own t₀ request) w)
    (hs : NoLostUpdate w.store) (h : next request i a (w.locals i) w.store = some (l', s')) :
    NoLostUpdate s' ↔ Current request w (i, a) := by
  obtain ⟨hu, hown⟩ := hw
  rcases next_cases h with ⟨t, req, hl, hr, herr, -, rfl⟩ | ⟨t, r, hl, hr, -, rfl⟩ |
    ⟨htunnel, hcommits, hidle, -⟩
  · have hi := hown i t req hl hr
    simp only [Current, hl, hr, herr]
    exact noLostUpdate_commit hs hu (fun f v hv => (hi f).1 v hv) fun f hf hn => (hi f).2 hf hn
  · have hcurrent : Current request w (i, a) := by simp [Current, hr]
    refine iff_of_true ?_ hcurrent
    rw [updateTunnelStatus_eq]
    have hstatus := get_status w.store.tunnel r.target
    apply (noLostUpdate_commit hs hu ?_ ?_).mpr
    · intro f hf
      rw [hstatus, hf]
      rfl
    · intro f v hv
      rw [hstatus, hv]
      rfl
    · intro f hf hn
      rw [hstatus, hf]
      exact hu f hn
  · have hcurrent : Current request w (i, a) := by
      simp only [Current]
      split
      · rename_i t req hl hr herr
        exact absurd herr (hidle t hl)
      · trivial
    refine iff_of_true ?_ hcurrent
    intro f v hv
    rw [htunnel]
    exact hs f v (hcommits ▸ hv)

end Steps

theorem no_lost_update_iff [DecidableEq ι] (request : ι → Request) (t : TunnelRecord)
    (as : List (ι × Answer)) :
    Always (step (next request)) (fun w => NoLostUpdate w.store) (start t) as ↔
      Guarded (step (next request)) (Current request) (start t) as := by
  apply (nonInterfering t request).always_iff_guarded
  · simp [NoLostUpdate, start, Field.written]
  · exact ⟨fun f _ => rfl, fun i t req hl => by cases hl⟩
  · intro w i a l s hw hs h
    exact noLostUpdate_next hw hs h

def rename : UpdateTunnelRequest := ⟨some (ascii "api"), none, none⟩

theorem no_lost_update_fails :
    ∃ w, run (step (next fun start : Bool => if start then .status .start else .update rename))
        (start ⟨Lifecycle.exampleTunnel .stopped, 100⟩)
        [(false, ⟨none, 1⟩), (true, ⟨none, 2⟩), (true, ⟨none, 3⟩), (false, ⟨none, 4⟩)] = some w ∧
      w.store.tunnel.status = .stopped ∧ ¬ NoLostUpdate w.store := by
  refine ⟨_, rfl, rfl, fun h => ?_⟩
  have hstatus := h .status .starting rfl
  cases hstatus

end OmniTun.Tunnel.Updates
