import OmniTun.Relay.Handshake

/-! A tunnel's handshake and a configuration push that lists the tunnel, in either order. -/

namespace OmniTun.Relay.ConfigPush

open OmniTun.Foundation OmniTun.Foundation.Transport OmniTun.Protocol DispatcherIsolation

def routeWrite (t : ConfigTunnel) : Option (Bytes × Bytes) :=
  if t.tunnelID ≠ [] ∧ t.domain ≠ [] then some (t.domain, t.tunnelID) else none

def rowWrite (t : ConfigTunnel) : Option (Bytes × TunnelContext) :=
  if t.tunnelID ≠ [] then some (t.tunnelID, t.context) else none

def lastOwner (tunnels : List ConfigTunnel) (domain : Bytes) : Option Bytes :=
  Table.lastWritten domain (tunnels.map routeWrite)

def RoutesTo {κ : Type*} (s : Server κ) (domain tunnelID : Bytes) (streamID : UInt64) : Prop :=
  ∃ ctx sc, s.dispatcher.lookup domain = some ctx ∧ ctx.tunnelID = tunnelID ∧
    ctx.streamID = streamID ∧ s.streamMux.getStream streamID = some sc ∧ sc.tunnelID = tunnelID

inductive Order
  | handshakeFirst
  | pushFirst
  deriving DecidableEq, Repr

section

variable {κ : Type*} [Reader κ] [Writer κ] (mac : Bytes → Bytes → Bytes)
  (unmarshal : Bytes → Option (List ConfigTunnel))

def process (now : ℤ) (s : Server κ) (stream : Option κ) (msg : Bytes) :
    Order → HandshakeResult κ × Server κ
  | .handshakeFirst =>
    let (result, s) := s.handleQUICConnection mac now stream
    (result, s.onConfigUpdate unmarshal msg)
  | .pushFirst => (s.onConfigUpdate unmarshal msg).handleQUICConnection mac now stream

end

section Dispatcher

variable {d : Dispatcher} {tunnels : List ConfigTunnel}

lemma applyConfig_singleton (d : Dispatcher) (t : ConfigTunnel) :
    (d.applyConfig [t]).byDomain = d.byDomain.write (routeWrite t) ∧
      (d.applyConfig [t]).tunnels = d.tunnels.write (rowWrite t) := by
  by_cases h : t.tunnelID = []
  · simp [Dispatcher.applyConfig, Dispatcher.register, ConfigTunnel.context, routeWrite, rowWrite, h,
      Table.write]
  · by_cases hd : t.domain = []
    · simp [Dispatcher.applyConfig, Dispatcher.register, ConfigTunnel.context, Dispatcher.store,
        routeWrite, rowWrite, h, hd, Table.write]
    · simp [Dispatcher.applyConfig, Dispatcher.register, ConfigTunnel.context, Dispatcher.store,
        routeWrite, rowWrite, h, hd, Table.write]

lemma applyConfig_tables (d : Dispatcher) (tunnels : List ConfigTunnel) :
    (d.applyConfig tunnels).byDomain = (tunnels.map routeWrite).foldl Table.write d.byDomain ∧
      (d.applyConfig tunnels).tunnels = (tunnels.map rowWrite).foldl Table.write d.tunnels := by
  induction tunnels generalizing d with
  | nil => exact ⟨rfl, rfl⟩
  | cons t tunnels ih =>
    obtain ⟨hroute, hrow⟩ := ih (d.applyConfig [t])
    obtain ⟨hroute', hrow'⟩ := applyConfig_singleton d t
    rw [hroute'] at hroute
    rw [hrow'] at hrow
    exact ⟨hroute, hrow⟩

lemma byDomain_applyConfig (domain : Bytes) :
    (d.applyConfig tunnels).byDomain.lookup domain =
      (lastOwner tunnels domain).or (d.byDomain.lookup domain) := by
  rw [(applyConfig_tables d tunnels).1, Table.lookup_foldl_write, lastOwner]

lemma row_applyConfig {t : ConfigTunnel} (ht : t ∈ tunnels) (hne : t.tunnelID ≠ [])
    (hzero : ∀ u ∈ tunnels, u.tunnelID = t.tunnelID → u.streamID = 0) :
    ∃ ctx, (d.applyConfig tunnels).tunnels.lookup t.tunnelID = some ctx ∧ ctx.streamID = 0 := by
  have hmem : some (t.tunnelID, t.context) ∈ tunnels.map rowWrite :=
    List.mem_map.mpr ⟨t, ht, if_pos hne⟩
  obtain ⟨ctx, hctx⟩ := Table.lastWritten_isSome hmem
  refine ⟨ctx, ?_, ?_⟩
  · rw [(applyConfig_tables d tunnels).2, Table.lookup_foldl_write, hctx, Option.some_or]
  · obtain ⟨u, hu, hw⟩ := List.mem_map.mp (Table.lastWritten_mem hctx)
    simp only [rowWrite] at hw
    split_ifs at hw
    obtain ⟨hid, rfl⟩ := Prod.mk.inj (Option.some.inj hw)
    exact hzero u hu hid

lemma lastOwner_of_mem {t : ConfigTunnel} (ht : t ∈ tunnels) (hne : t.tunnelID ≠ [])
    (hd : t.domain ≠ []) : ∃ owner, lastOwner tunnels t.domain = some owner := by
  have hmem : some (t.domain, t.tunnelID) ∈ tunnels.map routeWrite :=
    List.mem_map.mpr ⟨t, ht, if_pos ⟨hne, hd⟩⟩
  exact Table.lastWritten_isSome hmem

lemma lookup_of_route {domain owner : Bytes} (h : d.byDomain.lookup domain = some owner) :
    d.lookup domain = d.tunnels.lookup owner := by
  simp [lookup_eq, domainRoute, h]

lemma not_routesTo {κ : Type*} {s : Server κ} {streamID : UInt64} {domain tunnelID owner : Bytes}
    (h : s.dispatcher.byDomain.lookup domain = some owner) (hne : owner ≠ tunnelID) :
    ¬ RoutesTo s domain tunnelID streamID := by
  rintro ⟨ctx, _, hl, hid, _⟩
  rw [lookup_of_route h] at hl
  exact hne ((s.dispatcher.keyed owner ctx hl).1 ▸ hid)

end Dispatcher

section Orders

variable {κ : Type*} [Reader κ] [Writer κ] {mac : Bytes → Bytes → Bytes}
  {unmarshal : Bytes → Option (List ConfigTunnel)} {now : ℤ} {s : Server κ} {stream : Option κ}
  {msg : Bytes} {tunnels : List ConfigTunnel} {t : ConfigTunnel} {streamID : UInt64}

lemma routesTo_handshakeFirst (hmsg : unmarshal msg = some tunnels) (ht : t ∈ tunnels)
    (hd : t.domain ≠ []) (hzero : ∀ u ∈ tunnels, u.tunnelID = t.tunnelID → u.streamID = 0)
    (h : (process mac unmarshal now s stream msg .handshakeFirst).1 =
      .connected t.tunnelID streamID) :
    RoutesTo (process mac unmarshal now s stream msg .handshakeFirst).2 t.domain t.tunnelID streamID ↔
      lastOwner tunnels t.domain = some t.tunnelID ∧ s.streamMux.nextStreamID = 0 := by
  simp only [process] at h ⊢
  have hc := Server.connected_of_handleQUICConnection (Prod.ext h rfl)
  obtain ⟨owner, ho⟩ := lastOwner_of_mem ht hc.named hd
  have hroute : ((s.handleQUICConnection mac now stream).2.onConfigUpdate unmarshal
      msg).dispatcher.byDomain.lookup t.domain = some owner := by
    simp only [Server.onConfigUpdate, Dispatcher.onConfigUpdate, hmsg, byDomain_applyConfig, ho,
      Option.some_or]
  by_cases hne : owner = t.tunnelID
  -- the push has replaced the context of the handshake by one without a stream
  · subst hne
    obtain ⟨sc, hsc, hsid⟩ := hc.live
    obtain ⟨ctx, hctx, hzid⟩ := row_applyConfig (d :=
      (s.handleQUICConnection mac now stream).2.dispatcher) ht hc.named hzero
    have hl : ((s.handleQUICConnection mac now stream).2.onConfigUpdate unmarshal
        msg).dispatcher.lookup t.domain = some ctx := by
      rw [lookup_of_route hroute]
      simp only [Server.onConfigUpdate, Dispatcher.onConfigUpdate, hmsg, hctx]
    constructor
    · rintro ⟨ctx', _, hl', _, hsid', _⟩
      obtain rfl : ctx = ctx' := Option.some.inj (hl.symm.trans hl')
      exact ⟨ho, by rw [← hc.fresh, ← hsid', hzid]⟩
    · rintro ⟨_, hnext⟩
      refine ⟨ctx, sc, hl, ?_, ?_, hsc, hsid⟩
      · exact (Dispatcher.keyed _ _ ctx hctx).1
      · rw [hzid, hc.fresh, hnext]
  · refine iff_of_false (not_routesTo hroute hne) ?_
    rw [ho]
    exact fun h => hne (Option.some.inj h.1)

lemma routesTo_pushFirst (hmsg : unmarshal msg = some tunnels) (ht : t ∈ tunnels)
    (hd : t.domain ≠ [])
    (h : (process mac unmarshal now s stream msg .pushFirst).1 = .connected t.tunnelID streamID) :
    RoutesTo (process mac unmarshal now s stream msg .pushFirst).2 t.domain t.tunnelID streamID ↔
      lastOwner tunnels t.domain = some t.tunnelID := by
  simp only [process] at h ⊢
  have hc := Server.connected_of_handleQUICConnection (Prod.ext h rfl)
  obtain ⟨owner, ho⟩ := lastOwner_of_mem ht hc.named hd
  have hroute : ((s.onConfigUpdate unmarshal msg).handleQUICConnection mac now
      stream).2.dispatcher.byDomain.lookup t.domain = some owner := by
    rw [hc.routes.1]
    simp only [Server.onConfigUpdate, Dispatcher.onConfigUpdate, hmsg, byDomain_applyConfig, ho,
      Option.some_or]
  by_cases hne : owner = t.tunnelID
  · subst hne
    obtain ⟨sc, hsc, hsid⟩ := hc.live
    exact iff_of_true ⟨_, sc, (lookup_of_route hroute).trans hc.row, rfl, rfl, hsc, hsid⟩ ho
  · refine iff_of_false (not_routesTo hroute hne) ?_
    rw [ho]
    exact fun h => hne (Option.some.inj h)

theorem handshake_push (mac : Bytes → Bytes → Bytes)
    (unmarshal : Bytes → Option (List ConfigTunnel)) (now : ℤ) (s : Server κ) (stream : Option κ)
    (msg : Bytes) (order : Order) (tunnels : List ConfigTunnel) (t : ConfigTunnel)
    (streamID : UInt64) (hmsg : unmarshal msg = some tunnels) (ht : t ∈ tunnels)
    (hd : t.domain ≠ []) (hzero : ∀ u ∈ tunnels, u.tunnelID = t.tunnelID → u.streamID = 0)
    (h : (process mac unmarshal now s stream msg order).1 = .connected t.tunnelID streamID) :
    RoutesTo (process mac unmarshal now s stream msg order).2 t.domain t.tunnelID streamID ↔
      lastOwner tunnels t.domain = some t.tunnelID ∧
        (order = .pushFirst ∨ s.streamMux.nextStreamID = 0) := by
  cases order with
  | handshakeFirst =>
    rw [routesTo_handshakeFirst hmsg ht hd hzero h]
    simp
  | pushFirst =>
    rw [routesTo_pushFirst hmsg ht hd h]
    simp

end Orders

def exampleServer : Server Duplex :=
  ⟨newDispatcher, newStreamMultiplexer Duplex, newTokenValidator (ascii "secret") 0⟩

def exampleMac (_ _ : Bytes) : Bytes := List.replicate 32 0

def exampleStream : Duplex :=
  let token := (exampleServer.tokenValidator.generate exampleMac 0 (ascii "T")).1
  let connect := { newControlFrame controlTunnelConnect 0 with
    payload := controlTunnelConnect :: ascii "T" ++ [newline] ++ token }
  ⟨connect.header ++ connect.payload, [], false⟩

def exampleMessage : Bytes :=
  ascii "\x7b\"tunnels\":[\x7b\"tunnel_id\":\"T\",\"domain\":\"t.dev\"\x7d]\x7d"

def exampleTunnel : ConfigTunnel := { tunnelID := ascii "T", domain := ascii "t.dev" }

def exampleConfig (msg : Bytes) : Option (List ConfigTunnel) :=
  if msg = exampleMessage then some [exampleTunnel] else none

lemma exampleConfig_exampleMessage : exampleConfig exampleMessage = some [exampleTunnel] :=
  if_pos rfl

theorem handshake_push_example :
    RoutesTo (process exampleMac exampleConfig 0 exampleServer (some exampleStream) exampleMessage
      .pushFirst).2 (ascii "t.dev") (ascii "T") 1 := by
  have hresult : (process exampleMac exampleConfig 0 exampleServer (some exampleStream)
      exampleMessage .pushFirst).1 = .connected exampleTunnel.tunnelID 1 := by
    simp only [process, Server.onConfigUpdate, Dispatcher.onConfigUpdate,
      exampleConfig_exampleMessage]
    rfl
  refine (handshake_push exampleMac exampleConfig 0 exampleServer (some exampleStream)
    exampleMessage .pushFirst [exampleTunnel] exampleTunnel 1 exampleConfig_exampleMessage
    List.mem_cons_self (by decide) ?_ hresult).mpr ?_
  · simp [exampleTunnel]
  · decide

theorem handshake_push_fails :
    (process exampleMac exampleConfig 0 exampleServer (some exampleStream) exampleMessage
      .handshakeFirst).1.connectedAs = some (ascii "T", 1) ∧
    ¬ RoutesTo (process exampleMac exampleConfig 0 exampleServer (some exampleStream) exampleMessage
      .handshakeFirst).2 (ascii "t.dev") (ascii "T") 1 := by
  refine ⟨rfl, ?_⟩
  simp only [process, Server.onConfigUpdate, Dispatcher.onConfigUpdate,
    exampleConfig_exampleMessage]
  rintro ⟨ctx, _, hl, _, hid, _⟩
  obtain rfl : exampleTunnel.context = ctx := Option.some.inj hl
  revert hid
  decide

end OmniTun.Relay.ConfigPush
