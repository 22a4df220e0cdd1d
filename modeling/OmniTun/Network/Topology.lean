import OmniTun.Foundation.Processes
import OmniTun.Foundation.Table
import OmniTun.Foundation.Transport

/-! The routes of a topology planner, as objects that their callers share. -/

namespace OmniTun.Network

open OmniTun.Foundation Transition

inductive NATType
  | natUnknown
  | natOpen
  | natFullCone
  | natRestricted
  | natPortRestricted
  | natSymmetric
  deriving DecidableEq, Repr

def natNone : NATType := .natOpen

inductive TopologyMode
  | modeDirect
  | modeTURN
  | modeDERP
  | modeRelay
  deriving DecidableEq, Repr

structure TURNRelay where
  addr : Bytes

def TURNRelay.isAvailable (t : TURNRelay) : Bool := t.addr != []

def isPunchable (nat1 nat2 : NATType) : Bool :=
  if nat1 = .natSymmetric ∧ nat2 = .natSymmetric then false
  else if nat1 = .natUnknown ∨ nat2 = .natUnknown then false
  else true

def tryHolePunch (sourceNAT targetNAT : NATType) : Bool := isPunchable sourceNAT targetNAT

def separator : Bytes := [0xE2, 0x86, 0x94]

def routeKey (source target : Bytes) : Bytes :=
  if source < target then source ++ separator ++ target else target ++ separator ++ source

structure PlanRequest where
  sourceNAT : NATType
  targetNAT : NATType
  sourceAddr : Bytes
  targetAddr : Bytes
  deriving DecidableEq

def PlanRequest.key (req : PlanRequest) : Bytes := routeKey req.sourceAddr req.targetAddr

/-- Times and durations are in nanoseconds. -/
structure TopoRoute where
  sourceNode : Bytes
  targetNode : Bytes
  mode : TopologyMode
  latency : ℤ
  established : ℤ
  lastChecked : ℤ
  failCount : ℕ
  deriving DecidableEq

def planMode (turnRelay : TURNRelay) (sourceNAT targetNAT : NATType) : TopologyMode :=
  if sourceNAT = natNone ∨ targetNAT = natNone then .modeDirect
  else if sourceNAT ≠ .natSymmetric ∧ targetNAT ≠ .natSymmetric ∧
      tryHolePunch sourceNAT targetNAT then .modeDirect
  else if turnRelay.isAvailable then .modeTURN
  else .modeRelay

namespace TopoRoute

def degrade (turnRelay : TURNRelay) (r : TopoRoute) : TopoRoute :=
  match r.mode with
  | .modeDirect =>
    { r with mode := if turnRelay.isAvailable then .modeTURN else .modeRelay, failCount := 0 }
  | .modeTURN => { r with mode := .modeRelay, failCount := 0 }
  | .modeDERP => { r with mode := .modeRelay, failCount := 0 }
  | .modeRelay => { r with failCount := r.failCount + 1 }

def upgrade (turnRelay : TURNRelay) (r : TopoRoute) : TopoRoute :=
  match r.mode with
  | .modeRelay => if turnRelay.isAvailable then { r with mode := .modeTURN, failCount := 0 } else r
  | .modeTURN => { r with mode := .modeDirect, failCount := 0 }
  | .modeDERP => { r with mode := .modeTURN, failCount := 0 }
  | .modeDirect => r

def maxLatency : ℤ := 5 * 10 ^ 9

def monitor (turnRelay : TURNRelay) (now : ℤ) (r : TopoRoute) : TopoRoute :=
  let r := { r with lastChecked := now }
  let r := if maxLatency < r.latency then r.degrade turnRelay else r
  if 3 ≤ r.failCount then r.degrade turnRelay else r

end TopoRoute

/-- A route with what it was planned for, which the code does not keep. -/
structure Planned where
  route : TopoRoute
  sourceNAT : NATType
  targetNAT : NATType
  deriving DecidableEq

def Planned.map (f : TopoRoute → TopoRoute) (p : Planned) : Planned := { p with route := f p.route }

/-- A reference to a route is its index among the routes ever planned. -/
structure TopologyPlanner where
  turnRelay : TURNRelay
  planned : List Planned
  routes : Table Bytes ℕ
  refers : ∀ key route, routes.lookup key = some route → route < planned.length

def newTopologyPlanner (turnAddr : Bytes) : TopologyPlanner where
  turnRelay := ⟨turnAddr⟩
  planned := []
  routes := ∅
  refers _ _ h := by simp at h

/-- `now` are the two readings of the clock. -/
def newRoute (turnRelay : TURNRelay) (req : PlanRequest) (now : ℤ × ℤ) : Planned where
  route :=
    { sourceNode := req.sourceAddr
      targetNode := req.targetAddr
      mode := planMode turnRelay req.sourceNAT req.targetNAT
      latency := 0
      established := now.1
      lastChecked := now.2
      failCount := 0 }
  sourceNAT := req.sourceNAT
  targetNAT := req.targetNAT

namespace TopologyPlanner

variable (tp : TopologyPlanner)

def getRoute (key : Bytes) : Option ℕ := tp.routes.lookup key

def storeRoute (req : PlanRequest) (now : ℤ × ℤ) : ℕ × TopologyPlanner :=
  (tp.planned.length,
    { tp with
      planned := tp.planned ++ [newRoute tp.turnRelay req now]
      routes := tp.routes.insert req.key tp.planned.length
      refers := by
        intro key route h
        rw [List.length_append, List.length_singleton]
        rw [Table.lookup_insert] at h
        split_ifs at h
        · exact Option.some.inj h ▸ Nat.lt_succ_self _
        · exact Nat.lt_succ_of_lt (tp.refers key route h) })

def planRoute (req : PlanRequest) (now : ℤ × ℤ) : ℕ × TopologyPlanner :=
  match tp.getRoute req.key with
  | some route => (route, tp)
  | none => tp.storeRoute req now

def modify (route : ℕ) (f : TopoRoute → TopoRoute) : TopologyPlanner :=
  { tp with
    planned := tp.planned.modify route (Planned.map f)
    refers := by
      rw [List.length_modify]
      exact tp.refers }

def modifyAt (key : Bytes) (f : TopoRoute → TopoRoute) : TopologyPlanner :=
  match tp.getRoute key with
  | none => tp
  | some route => tp.modify route f

def degradeRoute (key : Bytes) : TopologyPlanner := tp.modifyAt key (TopoRoute.degrade tp.turnRelay)

def upgradeRoute (key : Bytes) : TopologyPlanner := tp.modifyAt key (TopoRoute.upgrade tp.turnRelay)

def monitorRoute (key : Bytes) (now : ℤ) : TopologyPlanner :=
  tp.modifyAt key (TopoRoute.monitor tp.turnRelay now)

def removeRoute (key : Bytes) : TopologyPlanner :=
  { tp with
    routes := tp.routes.erase key
    refers := by
      intro key' route h
      rw [Table.lookup_erase] at h
      split_ifs at h
      exact tp.refers key' route h }

end TopologyPlanner

section Keys

lemma bytes_lt_asymm {a b : Bytes} (h : a < b) : ¬ b < a := by
  have hbyte : Std.Asymm (fun x y : UInt8 => x < y) := ⟨fun x y => UInt8.lt_asymm⟩
  exact List.lt_asymm h

lemma bytes_eq_of_not_lt {a b : Bytes} (h : ¬ a < b) (h' : ¬ b < a) : a = b := by
  induction a generalizing b with
  | nil =>
    cases b with
    | nil => rfl
    | cons y b => exact absurd (List.nil_lt_cons y b) h
  | cons x a ih =>
    cases b with
    | nil => exact absurd (List.nil_lt_cons x a) h'
    | cons y b =>
      rw [List.cons_lt_cons_iff, not_or] at h h'
      have hxy : x = y := by
        apply UInt8.le_antisymm
        · exact UInt8.not_lt.mp h'.1
        · exact UInt8.not_lt.mp h.1
      subst hxy
      rw [ih (by simpa using h.2) (by simpa using h'.2)]

lemma routeKey_comm (a b : Bytes) : routeKey a b = routeKey b a := by
  simp only [routeKey]
  by_cases hab : a < b
  · rw [if_pos hab, if_neg (bytes_lt_asymm hab)]
  · rw [if_neg hab]
    split_ifs with hba
    · rfl
    · rw [bytes_eq_of_not_lt hab hba]

end Keys

section Feasibility

def Planned.Traversable (p : Planned) : Prop :=
  p.sourceNAT = natNone ∨ p.targetNAT = natNone ∨
    isPunchable p.sourceNAT p.targetNAT ∧ p.sourceNAT ≠ .natSymmetric ∧ p.targetNAT ≠ .natSymmetric

instance (p : Planned) : Decidable p.Traversable := inferInstanceAs (Decidable (_ ∨ _))

structure Planned.Feasible (turnRelay : TURNRelay) (p : Planned) : Prop where
  direct : p.route.mode = .modeDirect → p.Traversable
  turn : p.route.mode = .modeTURN → turnRelay.isAvailable

def Feasible (tp : TopologyPlanner) : Prop := ∀ p ∈ tp.planned, p.Feasible tp.turnRelay

inductive Op
  | plan (req : PlanRequest) (now : ℤ × ℤ)
  | degrade (key : Bytes)
  | upgrade (key : Bytes)
  | monitor (key : Bytes) (now : ℤ)
  | remove (key : Bytes)
  deriving DecidableEq

def Op.apply (tp : TopologyPlanner) : Op → TopologyPlanner
  | .plan req now => (tp.planRoute req now).2
  | .degrade key => tp.degradeRoute key
  | .upgrade key => tp.upgradeRoute key
  | .monitor key now => tp.monitorRoute key now
  | .remove key => tp.removeRoute key

def step (tp : TopologyPlanner) (op : Op) : Option TopologyPlanner := some (op.apply tp)

/-- A route that is upgraded to a direct path was planned for NAT types that allow one. -/
def Justified (tp : TopologyPlanner) : Op → Prop
  | .upgrade key => ∀ route p, tp.getRoute key = some route → tp.planned[route]? = some p →
      p.route.mode = .modeTURN → p.Traversable
  | _ => True

def NoDERP (tp : TopologyPlanner) : Prop := ∀ p ∈ tp.planned, p.route.mode ≠ .modeDERP

variable {tp : TopologyPlanner} {turnRelay : TURNRelay} {p : Planned} {f : TopoRoute → TopoRoute}
  {key : Bytes}

lemma newRoute_feasible (turnRelay : TURNRelay) (req : PlanRequest) (now : ℤ × ℤ) :
    (newRoute turnRelay req now).Feasible turnRelay ∧
      (newRoute turnRelay req now).route.mode ≠ .modeDERP := by
  have hmode : (newRoute turnRelay req now).route.mode =
      planMode turnRelay req.sourceNAT req.targetNAT := rfl
  simp only [planMode] at hmode
  split_ifs at hmode with hnone hpunch hturn
  · refine ⟨⟨fun _ => ?_, by simp [hmode]⟩, by simp [hmode]⟩
    rcases hnone with h | h
    · exact .inl h
    · exact .inr (.inl h)
  · exact ⟨⟨fun _ => .inr (.inr ⟨hpunch.2.2, hpunch.1, hpunch.2.1⟩), by simp [hmode]⟩, by simp [hmode]⟩
  · exact ⟨⟨by simp [hmode], fun _ => hturn⟩, by simp [hmode]⟩
  · exact ⟨⟨by simp [hmode], by simp [hmode]⟩, by simp [hmode]⟩

lemma mem_modify {route : ℕ} {q : Planned} (h : q ∈ (tp.modify route f).planned) :
    q ∈ tp.planned ∨ ∃ p, tp.planned[route]? = some p ∧ q = p.map f := by
  obtain ⟨i, hi⟩ := List.mem_iff_getElem?.mp h
  simp only [TopologyPlanner.modify, List.getElem?_modify] at hi
  cases hp : tp.planned[i]? with
  | none => simp [hp] at hi
  | some p =>
    split_ifs at hi with heq
    · simp only [hp, Option.map_eq_map, Option.map_some, Option.some.injEq] at hi
      exact .inr ⟨p, heq ▸ hp, hi.symm⟩
    · simp only [hp, Option.map_eq_map, Option.map_some, Option.some.injEq] at hi
      exact .inl (hi ▸ List.mem_of_getElem? hp)

lemma modify_mem {route : ℕ} (h : tp.planned[route]? = some p) :
    p.map f ∈ (tp.modify route f).planned := by
  apply List.mem_iff_getElem?.mpr
  exact ⟨route, by simp [TopologyPlanner.modify, h]⟩

lemma modifyAt_forall {P : Planned → Prop} (h : ∀ p ∈ tp.planned, P p)
    (hf : ∀ route p, tp.getRoute key = some route → tp.planned[route]? = some p →
      P (p.map f)) :
    ∀ p ∈ (tp.modifyAt key f).planned, P p := by
  simp only [TopologyPlanner.modifyAt]
  cases hr : tp.getRoute key with
  | none => exact h
  | some route =>
    intro q hq
    rcases mem_modify hq with hq | ⟨p, hp, rfl⟩
    · exact h q hq
    · exact hf route p hr hp

lemma modifyAt_turnRelay : (tp.modifyAt key f).turnRelay = tp.turnRelay := by
  simp only [TopologyPlanner.modifyAt]
  split <;> rfl

lemma degrade_mode (turnRelay : TURNRelay) (r : TopoRoute) :
    (r.degrade turnRelay).mode = .modeRelay ∨
      (r.degrade turnRelay).mode = .modeTURN ∧ turnRelay.isAvailable := by
  cases hm : r.mode <;> simp only [TopoRoute.degrade, hm]
  · split_ifs with h
    · exact .inr ⟨rfl, h⟩
    · exact .inl rfl
  all_goals simp

lemma degrade_feasible (p : Planned) :
    (p.map (.degrade turnRelay)).Feasible turnRelay ∧
      (p.map (.degrade turnRelay)).route.mode ≠ .modeDERP := by
  have hroute : (p.map (.degrade turnRelay)).route = p.route.degrade turnRelay := rfl
  rcases degrade_mode turnRelay p.route with hm | ⟨hm, hturn⟩
  · exact ⟨⟨by simp [hroute, hm], by simp [hroute, hm]⟩, by simp [hroute, hm]⟩
  · exact ⟨⟨by simp [hroute, hm], fun _ => hturn⟩, by simp [hroute, hm]⟩

lemma monitor_cases (turnRelay : TURNRelay) (now : ℤ) (r : TopoRoute) :
    r.monitor turnRelay now = { r with lastChecked := now } ∨
      ∃ r' : TopoRoute, r.monitor turnRelay now = r'.degrade turnRelay := by
  simp only [TopoRoute.monitor]
  split_ifs
  · exact .inr ⟨_, rfl⟩
  · exact .inr ⟨_, rfl⟩
  · exact .inr ⟨_, rfl⟩
  · exact .inl rfl

lemma monitor_feasible (now : ℤ) (h : p.Feasible turnRelay) (hm : p.route.mode ≠ .modeDERP) :
    (p.map (.monitor turnRelay now)).Feasible turnRelay ∧
      (p.map (.monitor turnRelay now)).route.mode ≠ .modeDERP := by
  rcases monitor_cases turnRelay now p.route with heq | ⟨r, heq⟩
  · rw [Planned.map, heq]
    exact ⟨⟨h.direct, h.turn⟩, hm⟩
  · rw [Planned.map, heq]
    exact degrade_feasible { p with route := r }

lemma upgrade_feasible_iff (h : p.Feasible turnRelay) (hm : p.route.mode ≠ .modeDERP) :
    (p.map (.upgrade turnRelay)).Feasible turnRelay ↔
      (p.route.mode = .modeTURN → p.Traversable) := by
  cases hmode : p.route.mode with
  | modeDirect =>
    simp only [Planned.map, TopoRoute.upgrade, hmode]
    exact iff_of_true h nofun
  | modeTURN =>
    simp only [Planned.map, TopoRoute.upgrade, hmode]
    exact ⟨fun hf _ => hf.direct rfl, fun ht => ⟨fun _ => ht trivial, nofun⟩⟩
  | modeDERP => exact absurd hmode hm
  | modeRelay =>
    simp only [Planned.map, TopoRoute.upgrade, hmode]
    refine iff_of_true ?_ nofun
    split_ifs with hturn
    · exact ⟨by simp, fun _ => hturn⟩
    · exact h

lemma upgrade_noDERP {r : TopoRoute} (hm : r.mode ≠ .modeDERP) :
    (r.upgrade turnRelay).mode ≠ .modeDERP := by
  cases hmode : r.mode with
  | modeDERP => exact absurd hmode hm
  | modeRelay =>
    simp only [TopoRoute.upgrade, hmode]
    split_ifs <;> simp [hmode]
  | modeDirect => simp [TopoRoute.upgrade, hmode]
  | modeTURN => simp [TopoRoute.upgrade, hmode]

lemma planRoute_forall {P : Planned → Prop} {req : PlanRequest} {now : ℤ × ℤ}
    (h : ∀ p ∈ tp.planned, P p) (hnew : P (newRoute tp.turnRelay req now)) :
    ∀ p ∈ (tp.planRoute req now).2.planned, P p := by
  simp only [TopologyPlanner.planRoute]
  split
  · exact h
  · intro p hp
    rcases List.mem_append.mp hp with hp | hp
    · exact h p hp
    · exact List.mem_singleton.mp hp ▸ hnew

lemma planRoute_turnRelay (req : PlanRequest) (now : ℤ × ℤ) :
    (tp.planRoute req now).2.turnRelay = tp.turnRelay := by
  simp only [TopologyPlanner.planRoute]
  split <;> rfl

lemma feasible_upgrade_iff (h : Feasible tp) (hd : NoDERP tp) :
    Feasible (tp.upgradeRoute key) ↔ Justified tp (.upgrade key) := by
  have hiff : ∀ (route : ℕ) (p : Planned), tp.planned[route]? = some p →
      ((p.map (.upgrade tp.turnRelay)).Feasible tp.turnRelay ↔
        (p.route.mode = .modeTURN → p.Traversable)) := fun route p hp =>
    upgrade_feasible_iff (h p (List.mem_of_getElem? hp)) (hd p (List.mem_of_getElem? hp))
  simp only [Feasible, TopologyPlanner.upgradeRoute, modifyAt_turnRelay]
  constructor
  · intro hf route p hr hp
    apply (hiff route p hp).mp
    apply hf
    simp only [TopologyPlanner.modifyAt, hr]
    exact modify_mem hp
  · intro hj
    exact modifyAt_forall h fun route p hr hp => (hiff route p hp).mpr (hj route p hr hp)

lemma feasible_apply (op : Op) (h : Feasible tp) (hd : NoDERP tp) :
    (Feasible (op.apply tp) ↔ Justified tp op) ∧ NoDERP (op.apply tp) := by
  cases op with
  | plan req now =>
    obtain ⟨hnew, hmode⟩ := newRoute_feasible tp.turnRelay req now
    refine ⟨iff_of_true ?_ trivial, planRoute_forall hd hmode⟩
    simp only [Feasible, Op.apply, planRoute_turnRelay]
    exact planRoute_forall h hnew
  | degrade key =>
    refine ⟨iff_of_true ?_ trivial, modifyAt_forall hd fun _ p _ _ => (degrade_feasible p).2⟩
    simp only [Feasible, Op.apply, TopologyPlanner.degradeRoute, modifyAt_turnRelay]
    exact modifyAt_forall h fun _ p _ _ => (degrade_feasible p).1
  | upgrade key =>
    refine ⟨feasible_upgrade_iff h hd, modifyAt_forall hd fun _ p _ hp => ?_⟩
    exact upgrade_noDERP (hd p (List.mem_of_getElem? hp))
  | monitor key now =>
    have hmon : ∀ (route : ℕ) (p : Planned), tp.planned[route]? = some p →
        (p.map (.monitor tp.turnRelay now)).Feasible tp.turnRelay ∧
          (p.map (.monitor tp.turnRelay now)).route.mode ≠ .modeDERP := fun route p hp =>
      monitor_feasible now (h p (List.mem_of_getElem? hp)) (hd p (List.mem_of_getElem? hp))
    refine ⟨iff_of_true ?_ trivial, modifyAt_forall hd fun route p _ hp => (hmon route p hp).2⟩
    simp only [Feasible, Op.apply, TopologyPlanner.monitorRoute, modifyAt_turnRelay]
    exact modifyAt_forall h fun route p _ hp => (hmon route p hp).1
  | remove key => exact ⟨iff_of_true h trivial, hd⟩

theorem topology_feasible_iff (turnAddr : Bytes) (ops : List Op) :
    Always step Feasible (newTopologyPlanner turnAddr) ops ↔
      Guarded step Justified (newTopologyPlanner turnAddr) ops := by
  have hstart : Feasible (newTopologyPlanner turnAddr) := by simp [Feasible, newTopologyPlanner]
  have hderp : NoDERP (newTopologyPlanner turnAddr) := by simp [NoDERP, newTopologyPlanner]
  apply always_iff_guarded hstart hderp
  intro tp op tp' h hd hs
  obtain rfl := Option.some.inj hs
  obtain ⟨hiff, hd'⟩ := feasible_apply op h hd
  exact ⟨hiff, fun _ => hd'⟩

def symmetricPair : PlanRequest :=
  ⟨.natSymmetric, .natSymmetric, ascii "192.168.1.1:41641", ascii "10.0.0.1:41642"⟩

theorem topology_feasible_fails :
    ∃ tp, run step (newTopologyPlanner (ascii "turn.dev:3478"))
        [.plan symmetricPair (0, 0), .upgrade symmetricPair.key] = some tp ∧
      (tp.planned.map fun p => (p.route.mode, p.sourceNAT, p.targetNAT)) =
        [(.modeDirect, .natSymmetric, .natSymmetric)] ∧
      ¬ Feasible tp := by
  refine ⟨_, rfl, rfl, fun h => ?_⟩
  exact absurd ((h _ List.mem_cons_self).direct rfl) (by decide)

end Feasibility

/-! Calls for one pair of addresses that run at the same time. -/

section Calls

open Processes

structure Call where
  sourceNAT : NATType
  targetNAT : NATType
  swapped : Bool

def Call.request (a b : Bytes) (c : Call) : PlanRequest :=
  if c.swapped then ⟨c.sourceNAT, c.targetNAT, b, a⟩ else ⟨c.sourceNAT, c.targetNAT, a, b⟩

inductive Local
  | received
  | missed
  | returned (route : ℕ)
  deriving DecidableEq

variable {ι : Type*} (a b : Bytes) (call : ι → Call)

/-- `PlanRoute` by its critical sections: the lookup, and the store if that found nothing. -/
def next (i : ι) (now : ℤ × ℤ) (l : Local) (tp : TopologyPlanner) : Option (Local × TopologyPlanner) :=
  let req := (call i).request a b
  match l with
  | .received =>
    match tp.getRoute req.key with
    | some route => some (.returned route, tp)
    | none => some (.missed, tp)
  | .missed => some (.returned (tp.storeRoute req now).1, (tp.storeRoute req now).2)
  | .returned _ => none

/-- The calls that have returned hold one route, and it is the one that the table has, so that what
is done to the route of the key is done to theirs. -/
structure OneRoute (w : World ι Local TopologyPlanner) : Prop where
  same : ∀ i j route route', w.locals i = .returned route → w.locals j = .returned route' →
    route = route'
  stored : ∀ i route, w.locals i = .returned route →
    w.store.getRoute (routeKey a b) = some route
  shared : ∀ i route f, w.locals i = .returned route →
    w.store.modifyAt (routeKey a b) f = w.store.modify route f

/-- A call that found no route stores one only if there is still none. -/
def Unraced (w : World ι Local TopologyPlanner) (i : ι × (ℤ × ℤ)) : Prop :=
  w.locals i.1 = .missed → w.store.getRoute (routeKey a b) = none

structure Tracked (w : World ι Local TopologyPlanner) : Prop where
  refers : ∀ i route, w.locals i = .returned route → route < w.store.planned.length
  held : ∀ i route, w.locals i = .missed → w.store.getRoute (routeKey a b) = some route →
    ∃ j, w.locals j = .returned route

variable {a b call} {w : World ι Local TopologyPlanner}

lemma OneRoute.of_stored (h : ∀ i route, w.locals i = .returned route →
    w.store.getRoute (routeKey a b) = some route) : OneRoute a b w where
  same i j route route' hi hj := Option.some.inj ((h i route hi).symm.trans (h j route' hj))
  stored := h
  shared i route f hi := by simp only [TopologyPlanner.modifyAt, h i route hi]

lemma request_key (c : Call) : (c.request a b).key = routeKey a b := by
  simp only [Call.request, PlanRequest.key]
  split_ifs
  · exact routeKey_comm b a
  · rfl

lemma next_cases {i : ι} {now : ℤ × ℤ} {l l' : Local} {tp tp' : TopologyPlanner}
    (h : next a b call i now l tp = some (l', tp')) :
    (l = .received ∧ tp' = tp ∧
      ((∃ route, tp.getRoute (routeKey a b) = some route ∧ l' = .returned route) ∨
        tp.getRoute (routeKey a b) = none ∧ l' = .missed)) ∨
    (l = .missed ∧ l' = .returned tp.planned.length ∧
      tp'.getRoute (routeKey a b) = some tp.planned.length ∧
      tp'.planned.length = tp.planned.length + 1) := by
  cases l with
  | received =>
    simp only [next, request_key] at h
    cases hr : tp.getRoute (routeKey a b) with
    | none =>
      simp only [hr, Option.some.injEq, Prod.mk.injEq] at h
      exact .inl ⟨rfl, h.2.symm, .inr ⟨rfl, h.1.symm⟩⟩
    | some route =>
      simp only [hr, Option.some.injEq, Prod.mk.injEq] at h
      exact .inl ⟨rfl, h.2.symm, .inl ⟨route, rfl, h.1.symm⟩⟩
  | missed =>
    simp only [next, Option.some.injEq, Prod.mk.injEq] at h
    obtain ⟨rfl, rfl⟩ := h
    refine .inr ⟨rfl, rfl, ?_, by simp [TopologyPlanner.storeRoute]⟩
    simp [TopologyPlanner.getRoute, TopologyPlanner.storeRoute, request_key]
  | returned route => cases h

variable [DecidableEq ι]

lemma oneRoute_step {i : ι × (ℤ × ℤ)} {w' : World ι Local TopologyPlanner} (h : OneRoute a b w)
    (ht : Tracked a b w) (hs : Processes.step (next a b call) w i = some w') :
    (OneRoute a b w' ↔ Unraced a b w i) ∧ (OneRoute a b w' → Tracked a b w') := by
  obtain ⟨l, tp, hnext, rfl⟩ := step_eq_some hs
  rcases next_cases hnext with ⟨hl, rfl, hfound⟩ | ⟨hl, rfl, hget, hlen⟩
  · have hunraced : Unraced a b w i := by simp [Unraced, hl]
    refine ⟨iff_of_true (.of_stored fun j route hj => ?_) hunraced, fun _ => ⟨?_, ?_⟩⟩
    · rcases update_cases (fun m => m = Local.returned route) hj with ⟨_, rfl⟩ | ⟨_, hj⟩
      · rcases hfound with ⟨route', hr, hl'⟩ | ⟨_, hl'⟩
        · cases hl'
          exact hr
        · cases hl'
      · exact h.stored j route hj
    · intro j route hj
      rcases update_cases (fun m => m = Local.returned route) hj with ⟨_, rfl⟩ | ⟨_, hj⟩
      · rcases hfound with ⟨route', hr, hl'⟩ | ⟨_, hl'⟩
        · cases hl'
          exact w.store.refers _ route hr
        · cases hl'
      · exact ht.refers j route hj
    · intro j route hj hr
      rcases update_cases (fun m => m = Local.missed) hj with ⟨_, rfl⟩ | ⟨hne, hj⟩
      · rcases hfound with ⟨_, _, hl'⟩ | ⟨hnone, _⟩
        · cases hl'
        · simp [hnone] at hr
      · obtain ⟨k, hk⟩ := ht.held j route hj hr
        have hki : k ≠ i.1 := by
          rintro rfl
          rw [hl] at hk
          cases hk
        exact ⟨k, by simpa [hki] using hk⟩
  · have hself : Function.update w.locals i.1 (.returned w.store.planned.length) i.1 =
        .returned w.store.planned.length := by simp
    refine ⟨⟨fun h' _ => ?_, fun hu => .of_stored fun j route hj => ?_⟩, fun _ => ⟨?_, ?_⟩⟩
    · -- the route that stood there is held by a call, and it is not the new one
      by_contra hr
      obtain ⟨route, hr⟩ := Option.ne_none_iff_exists'.mp hr
      obtain ⟨j, hj⟩ := ht.held i.1 route hl hr
      have hji : j ≠ i.1 := by
        rintro rfl
        rw [hl] at hj
        cases hj
      have heq := h'.same j i.1 route _ (by simpa [hji] using hj) hself
      have hlt := ht.refers j route hj
      omega
    · rcases update_cases (fun m => m = Local.returned route) hj with ⟨_, hj⟩ | ⟨_, hj⟩
      · cases hj
        exact hget
      · have hstored := h.stored j route hj
        rw [hu hl] at hstored
        cases hstored
    · intro j route hj
      rcases update_cases (fun m => m = Local.returned route) hj with ⟨_, hj⟩ | ⟨_, hj⟩
      · cases hj
        exact hlen ▸ Nat.lt_succ_self _
      · exact hlen ▸ Nat.lt_succ_of_lt (ht.refers j route hj)
    · intro j route _ hr
      rw [hget] at hr
      exact ⟨i.1, hself.trans (by rw [Option.some.inj hr])⟩

def calls (tp : TopologyPlanner) : World ι Local TopologyPlanner := ⟨fun _ => .received, tp⟩

variable (a b call) in
theorem one_route_iff (tp : TopologyPlanner) (as : List (ι × (ℤ × ℤ))) :
    Always (Processes.step (next a b call)) (OneRoute a b) (calls tp) as ↔
      Guarded (Processes.step (next a b call)) (Unraced a b) (calls tp) as := by
  have hstart : OneRoute a b (calls (ι := ι) tp) := .of_stored fun i route h => by cases h
  have htracked : Tracked a b (calls (ι := ι) tp) :=
    ⟨fun i route h => (by cases h), fun i route h => (by cases h)⟩
  apply always_iff_guarded hstart htracked
  intro w i w' h ht hs
  exact oneRoute_step h ht hs

theorem one_route_fails :
    ∃ w, run (Processes.step (next (ascii "A") (ascii "B") fun i : Bool =>
        if i then ⟨.natSymmetric, .natSymmetric, true⟩ else ⟨.natOpen, .natOpen, false⟩))
        (calls (newTopologyPlanner [])) [(false, 0, 0), (true, 0, 0), (false, 0, 0), (true, 0, 0)] =
          some w ∧
      w.locals false = .returned 0 ∧ w.locals true = .returned 1 ∧
      w.store.getRoute (routeKey (ascii "A") (ascii "B")) = some 1 ∧
      w.store.planned.map (fun p => p.route.mode) = [.modeDirect, .modeRelay] ∧
      ¬ OneRoute (ascii "A") (ascii "B") w := by
  refine ⟨_, rfl, rfl, rfl, by decide, rfl, fun h => ?_⟩
  exact absurd (h.same false true 0 1 rfl rfl) (by decide)

end Calls

end OmniTun.Network
