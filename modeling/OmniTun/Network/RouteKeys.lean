import Mathlib.Data.Set.Insert
import OmniTun.Foundation.Separator
import OmniTun.Network.Topology

/-! The keys of the routes, and that a route in the table is the route of one pair of addresses. -/

namespace OmniTun.Network.RouteKeys

open OmniTun.Foundation Transition Processes Separator

def SeparatorFree (addr : Bytes) : Prop := ¬ separator <:+: addr

instance (addr : Bytes) : Decidable (SeparatorFree addr) := inferInstanceAs (Decidable (¬ _))

section Keys

variable {a b c d : Bytes}

lemma separator_unbordered : Unbordered separator := unbordered_cons (by decide)

lemma routeKey_eq_or (a b : Bytes) : routeKey a b = a ++ separator ++ b ∨
    routeKey a b = b ++ separator ++ a := by
  simp only [routeKey]
  split_ifs
  · exact .inl rfl
  · exact .inr rfl

lemma pair_of_routeKey (ha : SeparatorFree a) (hb : SeparatorFree b)
    (h : routeKey a b = routeKey c d) : ({a, b} : Set Bytes) = {c, d} := by
  rcases routeKey_eq_or a b with hab | hab <;> rcases routeKey_eq_or c d with hcd | hcd <;>
    rw [hab, hcd] at h
  · obtain ⟨rfl, rfl⟩ := separator_unbordered.split_unique ha hb h
    rfl
  · obtain ⟨rfl, rfl⟩ := separator_unbordered.split_unique ha hb h
    exact Set.pair_comm a b
  · obtain ⟨rfl, rfl⟩ := separator_unbordered.split_unique hb ha h
    exact Set.pair_comm a b
  · obtain ⟨rfl, rfl⟩ := separator_unbordered.split_unique hb ha h
    rfl

-- an address with the separator in it can stand for another pair
example : routeKey (ascii "A" ++ separator ++ ascii "B") (ascii "C") =
    routeKey (ascii "A") (ascii "B" ++ separator ++ ascii "C") := by decide

end Keys

def nodes (r : TopoRoute) : Set Bytes := {r.sourceNode, r.targetNode}

inductive Local
  | idle
  | missed (req : PlanRequest)
  | returned (req : PlanRequest) (route : ℕ)

/-- A reference to a route outlives its place in the table, and some fields of a route are written
through it without the lock. -/
inductive Action
  | lookUp (req : PlanRequest)
  | store (now : ℤ × ℤ)
  | measure (route : ℕ) (latency lastChecked : ℤ) (failCount : ℕ)
  | apply (op : Op)

variable {ι : Type*}

def Local.pending : Local → Option PlanRequest
  | .missed req => some req
  | _ => none

/-- `PlanRoute` by its critical sections, between those of any other calls for any addresses. -/
def next (_ : ι) (act : Action) (l : Local) (tp : TopologyPlanner) :
    Option (Local × TopologyPlanner) :=
  match l.pending, act with
  | some req, .store now =>
    some (.returned req (tp.storeRoute req now).1, (tp.storeRoute req now).2)
  | some _, _ => none
  | none, .store _ => none
  | none, .lookUp req =>
    match tp.getRoute req.key with
    | some route => some (.returned req route, tp)
    | none => some (.missed req, tp)
  | none, .measure route latency lastChecked failCount =>
    some (l, tp.modify route fun r =>
      { r with latency := latency, lastChecked := lastChecked, failCount := failCount })
  | none, .apply op => some (l, op.apply tp)

def idle (tp : TopologyPlanner) : World ι Local TopologyPlanner := ⟨fun _ => .idle, tp⟩

/-- The route of a pair is a route between its two addresses, in the table and in the hands of those
who asked for it, and no other pair has it. -/
structure NoSharedRoute (w : World ι Local TopologyPlanner) : Prop where
  stored : ∀ a b route, SeparatorFree a → SeparatorFree b →
    w.store.getRoute (routeKey a b) = some route →
    ∃ p, w.store.planned[route]? = some p ∧ nodes p.route = {a, b}
  returned : ∀ i req route, SeparatorFree req.sourceAddr → SeparatorFree req.targetAddr →
    w.locals i = .returned req route →
    ∃ p, w.store.planned[route]? = some p ∧ nodes p.route = {req.sourceAddr, req.targetAddr}
  unshared : ∀ a b c d route, SeparatorFree a → SeparatorFree b →
    w.store.getRoute (routeKey a b) = some route → w.store.getRoute (routeKey c d) = some route →
    ({a, b} : Set Bytes) = {c, d}

def keyAt (tp : TopologyPlanner) (route : ℕ) : Option Bytes :=
  tp.planned[route]?.map fun p => routeKey p.route.sourceNode p.route.targetNode

def Keyed (tp : TopologyPlanner) : Prop :=
  ∀ key route, tp.getRoute key = some route → keyAt tp route = some key

def Own (_ : ι) (l : Local) (tp : TopologyPlanner) : Prop :=
  ∀ req route, l = .returned req route → keyAt tp route = some req.key

structure Keeps (tp tp' : TopologyPlanner) : Prop where
  keys : ∀ route key, keyAt tp route = some key → keyAt tp' route = some key
  entries : ∀ key route, tp'.getRoute key = some route →
    tp.getRoute key = some route ∨ keyAt tp' route = some key

def KeepsNodes (f : TopoRoute → TopoRoute) : Prop :=
  ∀ r, (f r).sourceNode = r.sourceNode ∧ (f r).targetNode = r.targetNode

section Steps

variable {tp tp' : TopologyPlanner} {f : TopoRoute → TopoRoute}

lemma Keeps.refl : Keeps tp tp := ⟨fun _ _ h => h, fun _ _ h => .inl h⟩

lemma Keeps.keyed (h : Keeps tp tp') (hk : Keyed tp) : Keyed tp' := by
  intro key route hr
  rcases h.entries key route hr with hr | hr
  · exact h.keys route key (hk key route hr)
  · exact hr

lemma keeps_modify {route : ℕ} (hf : KeepsNodes f) : Keeps tp (tp.modify route f) := by
  refine ⟨fun route' key h => ?_, fun key route' h => .inl h⟩
  rw [← h]
  simp only [keyAt, TopologyPlanner.modify, List.getElem?_modify]
  cases tp.planned[route']? with
  | none => rfl
  | some p =>
    simp only [Option.map_eq_map, Option.map_some, Option.some.injEq]
    split_ifs
    · simp only [Planned.map, (hf p.route).1, (hf p.route).2]
    · rfl

lemma keeps_modifyAt {key : Bytes} (hf : KeepsNodes f) : Keeps tp (tp.modifyAt key f) := by
  simp only [TopologyPlanner.modifyAt]
  split
  · exact .refl
  · exact keeps_modify hf

lemma keyAt_storeRoute (tp : TopologyPlanner) (req : PlanRequest) (now : ℤ × ℤ) :
    keyAt (tp.storeRoute req now).2 tp.planned.length = some req.key := by
  simp [keyAt, TopologyPlanner.storeRoute, newRoute, PlanRequest.key]

lemma keeps_storeRoute (req : PlanRequest) (now : ℤ × ℤ) :
    Keeps tp (tp.storeRoute req now).2 := by
  refine ⟨fun route key h => ?_, fun key route h => ?_⟩
  · obtain ⟨p, hp, rfl⟩ := Option.map_eq_some_iff.mp h
    have hlt := (List.getElem?_eq_some_iff.mp hp).1
    simp only [keyAt, TopologyPlanner.storeRoute, List.getElem?_append_left hlt, hp,
      Option.map_some]
  · simp only [TopologyPlanner.getRoute, TopologyPlanner.storeRoute, Table.lookup_insert] at h
    split_ifs at h with hkey
    · obtain rfl := Option.some.inj h
      exact .inr (hkey ▸ keyAt_storeRoute tp req now)
    · exact .inl h

lemma keeps_planRoute (req : PlanRequest) (now : ℤ × ℤ) : Keeps tp (tp.planRoute req now).2 := by
  simp only [TopologyPlanner.planRoute]
  split
  · exact .refl
  · exact keeps_storeRoute req now

lemma keeps_removeRoute (key : Bytes) : Keeps tp (tp.removeRoute key) := by
  refine ⟨fun _ _ h => h, fun key' route h => ?_⟩
  simp only [TopologyPlanner.getRoute, TopologyPlanner.removeRoute, Table.lookup_erase] at h
  split_ifs at h
  exact .inl h

lemma keepsNodes_degrade (turnRelay : TURNRelay) : KeepsNodes (.degrade turnRelay) := by
  intro r
  simp only [TopoRoute.degrade]
  split <;> exact ⟨rfl, rfl⟩

lemma keepsNodes_upgrade (turnRelay : TURNRelay) : KeepsNodes (.upgrade turnRelay) := by
  intro r
  simp only [TopoRoute.upgrade]
  split
  · split_ifs <;> exact ⟨rfl, rfl⟩
  all_goals exact ⟨rfl, rfl⟩

lemma keepsNodes_monitor (turnRelay : TURNRelay) (now : ℤ) :
    KeepsNodes (.monitor turnRelay now) := by
  intro r
  have hdegrade := keepsNodes_degrade turnRelay
  simp only [TopoRoute.monitor]
  split_ifs
  · exact ⟨(hdegrade _).1.trans (hdegrade _).1, (hdegrade _).2.trans (hdegrade _).2⟩
  · exact hdegrade _
  · exact hdegrade _
  · exact ⟨rfl, rfl⟩

lemma keeps_apply (op : Op) : Keeps tp (op.apply tp) := by
  cases op with
  | plan req now => exact keeps_planRoute req now
  | degrade key => exact keeps_modifyAt (keepsNodes_degrade tp.turnRelay)
  | upgrade key => exact keeps_modifyAt (keepsNodes_upgrade tp.turnRelay)
  | monitor key now => exact keeps_modifyAt (keepsNodes_monitor tp.turnRelay now)
  | remove key => exact keeps_removeRoute key

end Steps

section Runs

variable {tp tp' : TopologyPlanner} {l l' : Local} {w : World ι Local TopologyPlanner}

lemma next_cases {i : ι} {act : Action} (h : next i act l tp = some (l', tp')) :
    Keeps tp tp' ∧ (l' = l ∨ (∃ req, l' = .missed req) ∨
      (∃ req route, l' = .returned req route ∧ tp' = tp ∧ tp.getRoute req.key = some route) ∨
      ∃ req route, l' = .returned req route ∧ keyAt tp' route = some req.key) := by
  cases hl : l.pending with
  | some req =>
    cases act with
    | store now =>
      simp only [next, hl, Option.some.injEq, Prod.mk.injEq] at h
      obtain ⟨rfl, rfl⟩ := h
      have hkey := keyAt_storeRoute tp req now
      exact ⟨keeps_storeRoute req now, .inr (.inr (.inr ⟨req, _, rfl, hkey⟩))⟩
    | _ => simp [next, hl] at h
  | none =>
    cases act with
    | store now => simp [next, hl] at h
    | lookUp req =>
      cases hr : tp.getRoute req.key with
      | none =>
        simp only [next, hl, hr, Option.some.injEq, Prod.mk.injEq] at h
        obtain ⟨rfl, rfl⟩ := h
        exact ⟨.refl, .inr (.inl ⟨req, rfl⟩)⟩
      | some route =>
        simp only [next, hl, hr, Option.some.injEq, Prod.mk.injEq] at h
        obtain ⟨rfl, rfl⟩ := h
        exact ⟨.refl, .inr (.inr (.inl ⟨req, route, rfl, rfl, hr⟩))⟩
    | measure route latency lastChecked failCount =>
      simp only [next, hl, Option.some.injEq, Prod.mk.injEq] at h
      obtain ⟨rfl, rfl⟩ := h
      exact ⟨keeps_modify fun r => ⟨rfl, rfl⟩, .inl rfl⟩
    | apply op =>
      simp only [next, hl, Option.some.injEq, Prod.mk.injEq] at h
      obtain ⟨rfl, rfl⟩ := h
      exact ⟨keeps_apply op, .inl rfl⟩

lemma nonInterfering : NonInterfering (next : ι → _) Keyed Own where
  own := by
    intro i act l tp l' tp' hk hown h
    obtain ⟨hkeeps, hl⟩ := next_cases h
    refine ⟨hkeeps.keyed hk, fun req route hret => ?_⟩
    rcases hl with rfl | ⟨_, rfl⟩ | ⟨_, _, rfl, rfl, hr⟩ | ⟨_, _, rfl, hkey⟩
    · exact hkeeps.keys route _ (hown req route hret)
    · cases hret
    · cases hret
      exact hk _ _ hr
    · cases hret
      exact hkey
  other := by
    intro i j act l m tp l' tp' _ _ _ hown h req route hret
    exact (next_cases h).1.keys route _ (hown req route hret)

lemma nodes_of_keyAt {a b : Bytes} {route : ℕ} (ha : SeparatorFree a) (hb : SeparatorFree b)
    (h : keyAt tp route = some (routeKey a b)) :
    ∃ p, tp.planned[route]? = some p ∧ nodes p.route = {a, b} := by
  obtain ⟨p, hp, hkey⟩ := Option.map_eq_some_iff.mp h
  exact ⟨p, hp, (pair_of_routeKey ha hb hkey.symm).symm⟩

lemma noSharedRoute_of_holds (h : Holds Keyed Own w) : NoSharedRoute w where
  stored a b route ha hb hr := nodes_of_keyAt ha hb (h.1 _ _ hr)
  returned i req route ha hb hl := nodes_of_keyAt ha hb (h.2 i req route hl)
  unshared a b c d route ha hb hab hcd := by
    have hkey := (h.1 _ _ hab).symm.trans (h.1 _ _ hcd)
    exact pair_of_routeKey ha hb (Option.some.inj hkey)

variable [DecidableEq ι]

theorem route_keys_identify_pairs :
    (∀ a b, routeKey a b = routeKey b a) ∧
    (∀ a b c d, SeparatorFree a → SeparatorFree b → routeKey a b = routeKey c d →
      ({a, b} : Set Bytes) = {c, d}) ∧
    ∀ turnAddr (as : List (ι × Action)),
      Always (Processes.step next) NoSharedRoute (idle (newTopologyPlanner turnAddr)) as := by
  refine ⟨routeKey_comm, fun a b c d ha hb h => pair_of_routeKey ha hb h, fun turnAddr as => ?_⟩
  have hstart : Holds Keyed Own (idle (ι := ι) (newTopologyPlanner turnAddr)) := by
    refine ⟨fun key route hr => ?_, fun i req route hl => ?_⟩
    · simp [idle, TopologyPlanner.getRoute, newTopologyPlanner] at hr
    · cases hl
  have hholds : Always (Processes.step next) (Holds Keyed Own)
      (idle (newTopologyPlanner turnAddr)) as := by
    apply always_invariant hstart
    intro w a w' hw hs
    exact nonInterfering.step hw hs
  exact hholds.mono fun w hw => noSharedRoute_of_holds hw

def twoPairs : List (Bool × Action) :=
  [(false, .lookUp ⟨.natOpen, .natOpen, ascii "A", ascii "B"⟩),
    (true, .lookUp ⟨.natOpen, .natOpen, ascii "C", ascii "A"⟩), (true, .store (0, 0)),
    (false, .store (0, 0)), (true, .lookUp ⟨.natOpen, .natOpen, ascii "B", ascii "A"⟩)]

theorem route_keys_identify_two_pairs :
    routeKey (ascii "A") (ascii "B") = routeKey (ascii "B") (ascii "A") ∧
    ({ascii "A", ascii "B"} : Set Bytes) = {ascii "B", ascii "A"} ∧
    ∃ w, run (Processes.step next) (idle (newTopologyPlanner [])) twoPairs = some w ∧
      w.store.getRoute (routeKey (ascii "C") (ascii "A")) = some 0 ∧
      w.store.getRoute (routeKey (ascii "B") (ascii "A")) = some 1 ∧ NoSharedRoute w := by
  obtain ⟨hcomm, hpair, hruns⟩ := route_keys_identify_pairs (ι := Bool)
  have hkey := hcomm (ascii "A") (ascii "B")
  refine ⟨hkey, hpair _ _ _ _ (by decide) (by decide) hkey, _, rfl, by decide, by decide, ?_⟩
  exact (hruns [] twoPairs).last rfl

end Runs

end OmniTun.Network.RouteKeys
