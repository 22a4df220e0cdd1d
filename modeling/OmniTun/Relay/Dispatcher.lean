import OmniTun.Foundation.SecondaryIndex
import OmniTun.Foundation.Transport

/-! The dispatcher: the relay's routing tables from domains, ports and slugs to tunnels. -/

namespace OmniTun.Relay

open OmniTun.Foundation

structure TunnelContext where
  tunnelID : Bytes
  agentID : Bytes := []
  streamID : UInt64 := 0
  bytesIn : UInt64 := 0
  bytesOut : UInt64 := 0
  domain : Bytes := []
  port : ℤ := 0
  protocol : Bytes := []
  slug : Bytes := []
  deriving DecidableEq

/-- Only a registered context enters `tunnels`, and only a key that is set enters an index. -/
structure Dispatcher where
  tunnels : Table Bytes TunnelContext
  byDomain : Table Bytes Bytes
  byPort : Table ℤ Bytes
  bySlug : Table Bytes Bytes
  keyed : ∀ id ctx, tunnels.lookup id = some ctx → ctx.tunnelID = id ∧ id ≠ []
  domain_set : byDomain.lookup [] = none
  port_set : ∀ p, p ≤ 0 → byPort.lookup p = none
  slug_set : bySlug.lookup [] = none

inductive RegisterError
  | emptyTunnelID
  deriving DecidableEq, Repr

/-- An entry of a configuration message, as decoded. Fields the message lacks are zero. -/
structure ConfigTunnel where
  tunnelID : Bytes
  agentID : Bytes := []
  domain : Bytes := []
  port : ℤ := 0
  protocol : Bytes := []
  streamID : UInt64 := 0
  deriving DecidableEq

def ConfigTunnel.context (t : ConfigTunnel) : TunnelContext where
  tunnelID := t.tunnelID
  agentID := t.agentID
  streamID := t.streamID
  domain := t.domain
  port := t.port
  protocol := t.protocol

def newDispatcher : Dispatcher where
  tunnels := ∅
  byDomain := ∅
  byPort := ∅
  bySlug := ∅
  keyed id ctx h := by simp at h
  domain_set := rfl
  port_set _ _ := rfl
  slug_set := rfl

/-- The first wildcard `*` followed by a suffix of the host from a dot on that has an entry. -/
def wildcardRoute (byDomain : Table Bytes Bytes) : Bytes → Option Bytes
  | [] => none
  | c :: rest =>
    if c = 46 then
      match byDomain.lookup (42 :: c :: rest) with
      | some id => some id
      | none => wildcardRoute byDomain rest
    else wildcardRoute byDomain rest

namespace Dispatcher

def lookupByID (d : Dispatcher) (id : Bytes) : Option TunnelContext := d.tunnels.lookup id

def lookup (d : Dispatcher) (host : Bytes) : Option TunnelContext :=
  if host = [] then none
  else
    match d.byDomain.lookup host with
    | some id => d.lookupByID id
    | none => (wildcardRoute d.byDomain host).bind d.lookupByID

def lookupByPort (d : Dispatcher) (port : ℤ) : Option TunnelContext :=
  match d.byPort.lookup port with
  | some id => d.lookupByID id
  | none => none

def lookupBySlug (d : Dispatcher) (slug : Bytes) : Option TunnelContext :=
  if slug = [] then none
  else
    match d.bySlug.lookup slug with
    | some id => d.lookupByID id
    | none => none

def store (d : Dispatcher) (ctx : TunnelContext) (h : ctx.tunnelID ≠ []) : Dispatcher where
  tunnels := d.tunnels.insert ctx.tunnelID ctx
  byDomain := if ctx.domain ≠ [] then d.byDomain.insert ctx.domain ctx.tunnelID else d.byDomain
  byPort := if 0 < ctx.port then d.byPort.insert ctx.port ctx.tunnelID else d.byPort
  bySlug := if ctx.slug ≠ [] then d.bySlug.insert ctx.slug ctx.tunnelID else d.bySlug
  keyed id c hc := by
    rw [Table.lookup_insert] at hc
    split_ifs at hc with hid
    · obtain rfl := Option.some.inj hc
      exact ⟨hid.symm, hid ▸ h⟩
    · exact d.keyed id c hc
  domain_set := by
    split_ifs with hd
    · exact Table.lookup_insert_eq_none d.domain_set (Ne.symm hd)
    · exact d.domain_set
  port_set p hp := by
    split_ifs with hd
    · exact Table.lookup_insert_eq_none (d.port_set p hp) (by omega)
    · exact d.port_set p hp
  slug_set := by
    split_ifs with hd
    · exact Table.lookup_insert_eq_none d.slug_set (Ne.symm hd)
    · exact d.slug_set

lemma store_row (d : Dispatcher) (ctx : TunnelContext) (h : ctx.tunnelID ≠ []) :
    (d.store ctx h).tunnels.lookup ctx.tunnelID = some ctx := by
  simp only [store, Table.lookup_insert, if_true]

def register (d : Dispatcher) (ctx : TunnelContext) : Except RegisterError Dispatcher :=
  if h : ctx.tunnelID = [] then .error .emptyTunnelID else .ok (d.store ctx h)

def drop (d : Dispatcher) (id : Bytes) (ctx : TunnelContext) : Dispatcher where
  tunnels := d.tunnels.erase id
  byDomain := if ctx.domain ≠ [] then d.byDomain.erase ctx.domain else d.byDomain
  byPort := if 0 < ctx.port then d.byPort.erase ctx.port else d.byPort
  bySlug := if ctx.slug ≠ [] then d.bySlug.erase ctx.slug else d.bySlug
  keyed i c hc := by
    rw [Table.lookup_erase] at hc
    split_ifs at hc
    exact d.keyed i c hc
  domain_set := by
    split_ifs
    · exact Table.lookup_erase_eq_none d.domain_set
    · exact d.domain_set
  port_set p hp := by
    split_ifs
    · exact Table.lookup_erase_eq_none (d.port_set p hp)
    · exact d.port_set p hp
  slug_set := by
    split_ifs
    · exact Table.lookup_erase_eq_none d.slug_set
    · exact d.slug_set

def unregister (d : Dispatcher) (id : Bytes) : Dispatcher :=
  match d.tunnels.lookup id with
  | none => d
  | some ctx => d.drop id ctx

def applyConfig (d : Dispatcher) (tunnels : List ConfigTunnel) : Dispatcher :=
  tunnels.foldl (fun d t =>
    match d.register t.context with
    | .ok d => d
    -- the error is only logged
    | .error _ => d) d

def onConfigUpdate (unmarshal : Bytes → Option (List ConfigTunnel)) (d : Dispatcher)
    (msg : Bytes) : Dispatcher :=
  match unmarshal msg with
  | none => d
  | some tunnels => d.applyConfig tunnels

def tunnelCount (d : Dispatcher) : ℕ := d.tunnels.keys.card

/-- An assignment through the pointer that `tunnels` holds for the identifier. -/
def modify (d : Dispatcher) (id : Bytes) (f : TunnelContext → TunnelContext)
    (hf : ∀ ctx, (f ctx).tunnelID = ctx.tunnelID) : Dispatcher :=
  match h : d.tunnels.lookup id with
  | none => d
  | some ctx =>
    { d with
      tunnels := d.tunnels.insert id (f ctx)
      keyed := by
        intro i c hc
        rw [Table.lookup_insert] at hc
        split_ifs at hc with hi
        · obtain rfl := Option.some.inj hc
          rw [hf, hi]
          exact d.keyed id ctx h
        · exact d.keyed i c hc }

lemma modify_indexes (d : Dispatcher) (id : Bytes) (f : TunnelContext → TunnelContext)
    (hf : ∀ ctx, (f ctx).tunnelID = ctx.tunnelID) :
    (d.modify id f hf).byDomain = d.byDomain ∧ (d.modify id f hf).byPort = d.byPort ∧
      (d.modify id f hf).bySlug = d.bySlug := by
  unfold modify
  split <;> exact ⟨rfl, rfl, rfl⟩

lemma modify_tunnels {d : Dispatcher} {id : Bytes} {f : TunnelContext → TunnelContext}
    {hf : ∀ ctx, (f ctx).tunnelID = ctx.tunnelID} {ctx : TunnelContext}
    (h : d.tunnels.lookup id = some ctx) :
    (d.modify id f hf).tunnels = d.tunnels.insert id (f ctx) := by
  unfold modify
  split
  next hnone => simp [h] at hnone
  next c hc =>
    obtain rfl : c = ctx := Option.some.inj (hc.symm.trans h)
    rfl

def setStreamID (d : Dispatcher) (id : Bytes) (streamID : UInt64) : Dispatcher :=
  d.modify id (fun ctx => { ctx with streamID := streamID }) fun _ => rfl

def addBytesIn (d : Dispatcher) (id : Bytes) (n : UInt64) : Dispatcher :=
  d.modify id (fun ctx => { ctx with bytesIn := ctx.bytesIn + n }) fun _ => rfl

def addBytesOut (d : Dispatcher) (id : Bytes) (n : UInt64) : Dispatcher :=
  d.modify id (fun ctx => { ctx with bytesOut := ctx.bytesOut + n }) fun _ => rfl

end Dispatcher

end OmniTun.Relay
