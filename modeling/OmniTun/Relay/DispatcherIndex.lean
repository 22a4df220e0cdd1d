import OmniTun.Foundation.Transition
import OmniTun.Relay.Dispatcher

/-! The routes of the dispatcher and the contexts they lead to, over runs of its operations. -/

namespace OmniTun.Relay.DispatcherIndex

open OmniTun.Foundation OmniTun.Foundation.Transition
open SecondaryIndex

/-! The three keys a context can be found by. -/

def domainKey (ctx : TunnelContext) : Option Bytes := if ctx.domain ≠ [] then some ctx.domain else none
def portKey (ctx : TunnelContext) : Option ℤ := if 0 < ctx.port then some ctx.port else none
def slugKey (ctx : TunnelContext) : Option Bytes := if ctx.slug ≠ [] then some ctx.slug else none

structure Integrity (d : Dispatcher) : Prop where
  domain : ∀ k id, d.byDomain.lookup k = some id →
    ∃ ctx, d.tunnels.lookup id = some ctx ∧ ctx.domain = k
  port : ∀ k id, d.byPort.lookup k = some id →
    ∃ ctx, d.tunnels.lookup id = some ctx ∧ ctx.port = k
  slug : ∀ k id, d.bySlug.lookup k = some id →
    ∃ ctx, d.tunnels.lookup id = some ctx ∧ ctx.slug = k

inductive Op
  | register (ctx : TunnelContext)
  | unregister (id : Bytes)

def Op.apply (d : Dispatcher) : Op → Dispatcher
  | .register ctx =>
    match d.register ctx with
    | .ok d => d
    | .error _ => d
  | .unregister id => d.unregister id

structure KeepsKeys (d : Dispatcher) (ctx : TunnelContext) : Prop where
  domain : ∀ k, d.byDomain.lookup k = some ctx.tunnelID → ctx.domain = k
  port : ∀ k, d.byPort.lookup k = some ctx.tunnelID → ctx.port = k
  slug : ∀ k, d.bySlug.lookup k = some ctx.tunnelID → ctx.slug = k

def Op.Keeps (d : Dispatcher) : Op → Prop
  | .register ctx => ctx.tunnelID ≠ [] → KeepsKeys d ctx
  | .unregister _ => True

variable (unmarshal : Bytes → Option (List ConfigTunnel))

inductive Call
  | register (ctx : TunnelContext)
  | unregister (id : Bytes)
  | onConfigUpdate (msg : Bytes)

def Call.apply (d : Dispatcher) : Call → Dispatcher
  | .register ctx => Op.apply d (.register ctx)
  | .unregister id => Op.apply d (.unregister id)
  | .onConfigUpdate msg => d.onConfigUpdate unmarshal msg

def Call.ops : Call → List Op
  | .register ctx => [.register ctx]
  | .unregister id => [.unregister id]
  -- the entries are registered one after the other
  | .onConfigUpdate msg => ((unmarshal msg).getD []).map fun t => .register t.context

def opStep (d : Dispatcher) (op : Op) : Option Dispatcher := some (op.apply d)

def callStep (d : Dispatcher) (call : Call) : Option Dispatcher := some (call.apply unmarshal d)

lemma run_ops (d : Dispatcher) (ops : List Op) :
    run opStep d ops = some (ops.foldl Op.apply d) := by
  induction ops generalizing d with
  | nil => rfl
  | cons op ops ih => exact ih (op.apply d)

lemma call_apply (d : Dispatcher) (call : Call) :
    call.apply unmarshal d = (call.ops unmarshal).foldl Op.apply d := by
  cases call with
  | register ctx => rfl
  | unregister id => rfl
  | onConfigUpdate msg =>
    simp only [Call.apply, Call.ops, Dispatcher.onConfigUpdate]
    cases unmarshal msg with
    | none => rfl
    | some tunnels => simp only [Option.getD_some, List.foldl_map]; rfl

variable {unmarshal} {d : Dispatcher} {ctx : TunnelContext}

lemma store_indexes (h : ctx.tunnelID ≠ []) :
    (d.store ctx h).byDomain = enter domainKey d.byDomain ctx.tunnelID ctx ∧
    (d.store ctx h).byPort = enter portKey d.byPort ctx.tunnelID ctx ∧
    (d.store ctx h).bySlug = enter slugKey d.bySlug ctx.tunnelID ctx := by
  simp only [Dispatcher.store, enter, domainKey, portKey, slugKey]
  refine ⟨?_, ?_, ?_⟩ <;> split_ifs <;> rfl

lemma drop_indexes (ctx : TunnelContext) (id : Bytes) :
    (d.drop id ctx).byDomain = remove domainKey d.byDomain ctx ∧
    (d.drop id ctx).byPort = remove portKey d.byPort ctx ∧
    (d.drop id ctx).bySlug = remove slugKey d.bySlug ctx := by
  simp only [Dispatcher.drop, remove, domainKey, portKey, slugKey]
  refine ⟨?_, ?_, ?_⟩ <;> split_ifs <;> rfl

lemma key_eq_some {K : Type*} [DecidableEq K] {p : K → Prop} [DecidablePred p]
    {index : Table K Bytes} {k a : K} {id : Bytes} (hset : ∀ k, ¬ p k → index.lookup k = none)
    (hk : index.lookup k = some id) : (if p a then some a else none) = some k ↔ a = k := by
  have hp : p k := by
    by_contra h
    rw [hset k h] at hk
    cases hk
  rw [Option.ite_none_right_eq_some]
  constructor
  · rintro ⟨_, h⟩
    exact Option.some.inj h
  · rintro rfl
    exact ⟨hp, rfl⟩

lemma domainKey_eq (ctx : TunnelContext) (k id : Bytes) (hk : d.byDomain.lookup k = some id) :
    domainKey ctx = some k ↔ ctx.domain = k :=
  key_eq_some (p := (· ≠ [])) (fun _ h => not_not.mp h ▸ d.domain_set) hk

lemma portKey_eq (ctx : TunnelContext) (k : ℤ) (id : Bytes) (hk : d.byPort.lookup k = some id) :
    portKey ctx = some k ↔ ctx.port = k :=
  key_eq_some (p := (0 < ·)) (fun k h => d.port_set k (not_lt.mp h)) hk

lemma slugKey_eq (ctx : TunnelContext) (k id : Bytes) (hk : d.bySlug.lookup k = some id) :
    slugKey ctx = some k ↔ ctx.slug = k :=
  key_eq_some (p := (· ≠ [])) (fun _ h => not_not.mp h ▸ d.slug_set) hk

lemma integrity_iff : Integrity d ↔ Consistent domainKey d.tunnels d.byDomain ∧
    Consistent portKey d.tunnels d.byPort ∧ Consistent slugKey d.tunnels d.bySlug := by
  rw [consistent_iff_field domainKey_eq, consistent_iff_field portKey_eq,
    consistent_iff_field slugKey_eq]
  exact ⟨fun h => ⟨h.domain, h.port, h.slug⟩, fun ⟨h, h', h''⟩ => ⟨h, h', h''⟩⟩

lemma integrity_newDispatcher : Integrity newDispatcher :=
  integrity_iff.mpr ⟨consistent_empty, consistent_empty, consistent_empty⟩

lemma keepsKeys_iff : KeepsKeys d ctx ↔
    (∀ k, d.byDomain.lookup k = some ctx.tunnelID → domainKey ctx = some k) ∧
    (∀ k, d.byPort.lookup k = some ctx.tunnelID → portKey ctx = some k) ∧
    (∀ k, d.bySlug.lookup k = some ctx.tunnelID → slugKey ctx = some k) := by
  constructor
  · intro h
    exact ⟨fun k hk => (domainKey_eq ctx k _ hk).mpr (h.domain k hk),
      fun k hk => (portKey_eq ctx k _ hk).mpr (h.port k hk),
      fun k hk => (slugKey_eq ctx k _ hk).mpr (h.slug k hk)⟩
  · rintro ⟨hdomain, hport, hslug⟩
    exact ⟨fun k hk => (domainKey_eq ctx k _ hk).mp (hdomain k hk),
      fun k hk => (portKey_eq ctx k _ hk).mp (hport k hk),
      fun k hk => (slugKey_eq ctx k _ hk).mp (hslug k hk)⟩

lemma integrity_store_iff (hd : Integrity d) (h : ctx.tunnelID ≠ []) :
    Integrity (d.store ctx h) ↔ KeepsKeys d ctx := by
  obtain ⟨hdomain, hport, hslug⟩ := integrity_iff.mp hd
  obtain ⟨edomain, eport, eslug⟩ := store_indexes (d := d) h
  rw [integrity_iff, keepsKeys_iff, edomain, eport, eslug]
  apply and_congr (consistent_insert_iff hdomain)
  apply and_congr (consistent_insert_iff hport)
  exact consistent_insert_iff hslug

lemma integrity_drop (hd : Integrity d) {id : Bytes} (h : d.tunnels.lookup id = some ctx) :
    Integrity (d.drop id ctx) := by
  obtain ⟨hdomain, hport, hslug⟩ := integrity_iff.mp hd
  obtain ⟨edomain, eport, eslug⟩ := drop_indexes (d := d) ctx id
  rw [integrity_iff, edomain, eport, eslug]
  exact ⟨consistent_erase hdomain h, consistent_erase hport h, consistent_erase hslug h⟩

lemma integrity_apply_iff (hd : Integrity d) (op : Op) : Integrity (op.apply d) ↔ op.Keeps d := by
  cases op with
  | register ctx =>
    by_cases h : ctx.tunnelID = []
    · simp [Op.apply, Op.Keeps, Dispatcher.register, h, hd]
    · simp [Op.apply, Op.Keeps, Dispatcher.register, h, integrity_store_iff hd h]
  | unregister id =>
    simp only [Op.apply, Op.Keeps, Dispatcher.unregister, iff_true]
    cases h : d.tunnels.lookup id with
    | none => exact hd
    | some ctx => exact integrity_drop hd h

lemma always_opStep_iff (hd : Integrity d) (ops : List Op) :
    Always opStep Integrity d ops ↔ Guarded opStep Op.Keeps d ops := by
  apply always_iff_guarded_of_step hd
  intro s op t hs ht
  obtain rfl := Option.some.inj ht
  exact integrity_apply_iff hs op

lemma always_callStep {P : Dispatcher → Prop} {calls : List Call}
    (h : Always opStep P d (calls.flatMap (Call.ops unmarshal))) :
    Always (callStep unmarshal) P d calls := by
  induction calls generalizing d with
  | nil => exact h
  | cons call calls ih =>
    refine ⟨h.head, fun t ht => ?_⟩
    obtain rfl := Option.some.inj ht
    rw [call_apply]
    exact ih (h.append (run_ops d (call.ops unmarshal)))

/-- Every route leads to a registered context with the route's own key, throughout a run, if and
only if every registration is of a tunnel that no route under another key leads to. -/
theorem index_integrity (calls : List Call) :
    (Always opStep Integrity newDispatcher (calls.flatMap (Call.ops unmarshal)) ↔
      Guarded opStep Op.Keeps newDispatcher (calls.flatMap (Call.ops unmarshal))) ∧
    (Guarded opStep Op.Keeps newDispatcher (calls.flatMap (Call.ops unmarshal)) →
      Always (callStep unmarshal) Integrity newDispatcher calls) := by
  have hiff := always_opStep_iff integrity_newDispatcher (calls.flatMap (Call.ops unmarshal))
  exact ⟨hiff, fun h => always_callStep (hiff.mpr h)⟩

def reconnect : List Call :=
  [.register { tunnelID := ascii "T", domain := ascii "a" }, .register { tunnelID := ascii "T" }]

theorem index_integrity_fails :
    ¬ Always (callStep fun _ => none) Integrity newDispatcher reconnect := by
  intro h
  obtain ⟨ctx, hctx, hk⟩ := ((h.2 _ rfl).2 _ rfl).domain (ascii "a") (ascii "T") (by decide)
  obtain rfl : { tunnelID := ascii "T" } = ctx := Option.some.inj hctx
  revert hk
  decide

end OmniTun.Relay.DispatcherIndex
