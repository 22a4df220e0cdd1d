import OmniTun.Foundation.Numerals
import OmniTun.Foundation.Table
import OmniTun.Foundation.Transition

/-! WireGuard configurations of the peers of a mesh network. -/

namespace OmniTun.Network.WireGuard

open OmniTun.Foundation Numerals Transition

structure WireGuardKeyPair where
  privateKey : Bytes
  publicKey : Bytes
  deriving DecidableEq

structure MeshPeer where
  nodeID : Bytes
  publicKey : Bytes
  meshIP : Bytes
  endpoint : Bytes
  deriving DecidableEq

structure MeshNetwork where
  id : Bytes
  name : Bytes
  cidr : Bytes
  peers : Table Bytes MeshPeer
  keyPair : WireGuardKeyPair

def clamp (privateKey : Bytes) : Bytes :=
  (privateKey.modify 0 (· &&& 248)).modify 31 fun b => b &&& 127 ||| 64

section

variable (x25519 : Bytes → Bytes)

/-- `x25519` multiplies the base point by a scalar, and `random` are 32 bytes that are drawn. -/
def generateWireGuardKeyPair (random : Bytes) : WireGuardKeyPair where
  privateKey := hexEncode (clamp random)
  publicKey := hexEncode (x25519 (clamp random))

def newMeshNetwork (random idBytes name cidr : Bytes) : MeshNetwork where
  id := hexEncode idBytes
  name := name
  cidr := cidr
  peers := ∅
  keyPair := generateWireGuardKeyPair x25519 random

def IsKeyPair (privateKey publicKey : Bytes) : Prop :=
  ∃ scalar, privateKey = hexEncode scalar ∧ publicKey = hexEncode (x25519 scalar)

end

structure WGPeer where
  nodeID : Bytes
  publicKey : Bytes
  allowedIPs : Bytes
  endpoint : Bytes
  deriving DecidableEq

structure WGConfig where
  privateKey : Bytes
  address : Bytes
  peers : List WGPeer
  deriving DecidableEq

def WGPeer.text (p : WGPeer) : Bytes :=
  ascii "[Peer]\nPublicKey = " ++ p.publicKey ++ ascii "\nAllowedIPs = " ++ p.allowedIPs ++
    ascii "\nEndpoint = " ++ p.endpoint ++ ascii "\nPersistentKeepalive = 25\n\n"

def WGConfig.text (c : WGConfig) : Bytes :=
  ascii "[Interface]\nPrivateKey = " ++ c.privateKey ++ ascii "\nAddress = " ++ c.address ++
    ascii "\nListenPort = 51820\n\n" ++ c.peers.flatMap WGPeer.text

def MeshPeer.section (id : Bytes) (p : MeshPeer) : WGPeer where
  nodeID := id
  publicKey := p.publicKey
  allowedIPs := p.meshIP ++ ascii "/32"
  endpoint := if p.endpoint = [] then ascii "0.0.0.0:51820" else p.endpoint

namespace MeshNetwork

variable (m : MeshNetwork)

def wgConfig (order : Table.RangeOrder Bytes) (peerID : Bytes) : Except Bytes WGConfig :=
  match m.peers.lookup peerID with
  | none => .error (ascii "peer not found: " ++ peerID)
  | some peer => .ok
      { privateKey := m.keyPair.privateKey
        address := peer.meshIP ++ ascii "/32"
        peers := ((order.entries m.peers).filter fun e => e.1 ≠ peerID).map fun e => e.2.section e.1 }

def generateWGConfig (order : Table.RangeOrder Bytes) (peerID : Bytes) : Except Bytes Bytes :=
  (m.wgConfig order peerID).map WGConfig.text

def addPeer (peer : Option MeshPeer) : Except Bytes MeshNetwork :=
  match peer with
  | none => .error (ascii "peer is nil")
  | some peer =>
    if peer.nodeID = [] then .error (ascii "peer NodeID is required")
    else if peer.meshIP = [] then .error (ascii "peer MeshIP is required")
    else if (m.peers.lookup peer.nodeID).isSome then
      .error (ascii "peer " ++ peer.nodeID ++ ascii " already exists")
    else .ok { m with peers := m.peers.insert peer.nodeID peer }

def removePeer (nodeID : Bytes) : Except Bytes MeshNetwork :=
  match m.peers.lookup nodeID with
  | none => .error (ascii "peer not found: " ++ nodeID)
  | some _ => .ok { m with peers := m.peers.erase nodeID }

end MeshNetwork

inductive Op
  | add (peer : Option MeshPeer)
  | remove (nodeID : Bytes)

def step (m : MeshNetwork) : Op → Option MeshNetwork
  | .add peer => some ((m.addPeer peer).toOption.getD m)
  | .remove nodeID => some ((m.removePeer nodeID).toOption.getD m)

structure Consistent (x25519 : Bytes → Bytes) (m : MeshNetwork) : Prop where
  keys : ∀ order a b ca cb, a ≠ b → m.wgConfig order a = .ok ca → m.wgConfig order b = .ok cb →
    ∀ s ∈ cb.peers, s.nodeID = a → IsKeyPair x25519 ca.privateKey s.publicKey
  others : ∀ order a ca, m.wgConfig order a = .ok ca →
    (ca.peers.map WGPeer.nodeID).Nodup ∧
      ∀ b, b ∈ ca.peers.map WGPeer.nodeID ↔ b ≠ a ∧ (m.peers.lookup b).isSome
  addresses : ∀ order a ca, m.wgConfig order a = .ok ca →
    (ca.peers.map WGPeer.allowedIPs).Nodup

/-- What the peers themselves have to bring: of two or more, each has the network's own key, and no
two next to a third have one address. -/
structure Compatible (m : MeshNetwork) : Prop where
  keys : ∀ a b p q, a ≠ b → m.peers.lookup a = some p → m.peers.lookup b = some q →
    p.publicKey = m.keyPair.publicKey
  addresses : ∀ a b c p q r, a ≠ b → a ≠ c → b ≠ c → m.peers.lookup a = some p →
    m.peers.lookup b = some q → m.peers.lookup c = some r → p.meshIP ≠ q.meshIP

section Configs

variable {x25519 : Bytes → Bytes} {m : MeshNetwork} {order : Table.RangeOrder Bytes}
  {a : Bytes} {ca : WGConfig} {random : Bytes}

lemma wgConfig_eq_ok (h : m.wgConfig order a = .ok ca) :
    (∃ p, m.peers.lookup a = some p) ∧ ca.privateKey = m.keyPair.privateKey ∧
      ca.peers = ((order.entries m.peers).filter fun e => e.1 ≠ a).map fun e => e.2.section e.1 := by
  simp only [MeshNetwork.wgConfig] at h
  cases hp : m.peers.lookup a with
  | none => simp [hp] at h
  | some p =>
    simp only [hp, Except.ok.injEq] at h
    subst h
    exact ⟨⟨p, rfl⟩, rfl, rfl⟩

lemma wgConfig_of_lookup (order : Table.RangeOrder Bytes) {p : MeshPeer}
    (h : m.peers.lookup a = some p) : ∃ ca, m.wgConfig order a = .ok ca := by
  simp only [MeshNetwork.wgConfig, h]
  exact ⟨_, rfl⟩

lemma mem_peers (h : m.wgConfig order a = .ok ca) {s : WGPeer} :
    s ∈ ca.peers ↔ ∃ b p, b ≠ a ∧ m.peers.lookup b = some p ∧ s = p.section b := by
  rw [(wgConfig_eq_ok h).2.2]
  simp only [List.mem_map, List.mem_filter, Prod.exists, order.mem_entries, decide_eq_true_eq]
  constructor
  · rintro ⟨b, p, ⟨hp, hne⟩, rfl⟩
    exact ⟨b, p, hne, hp, rfl⟩
  · rintro ⟨b, p, hne, hp, rfl⟩
    exact ⟨b, p, ⟨hp, hne⟩, rfl⟩

lemma nodup_nodeIDs (h : m.wgConfig order a = .ok ca) : (ca.peers.map WGPeer.nodeID).Nodup := by
  rw [(wgConfig_eq_ok h).2.2, List.map_map]
  exact (order.nodup_keys m.peers).sublist (List.filter_sublist.map _)

lemma nodup_allowedIPs_iff (h : m.wgConfig order a = .ok ca) :
    (ca.peers.map WGPeer.allowedIPs).Nodup ↔
      ∀ s ∈ ca.peers, ∀ t ∈ ca.peers, s.nodeID ≠ t.nodeID → s.allowedIPs ≠ t.allowedIPs := by
  constructor
  · intro hn s hs t ht hne heq
    exact hne (congrArg WGPeer.nodeID (List.inj_on_of_nodup_map hn hs ht heq))
  · intro hd
    apply (List.Nodup.of_map _ (nodup_nodeIDs h)).map_on
    intro s hs t ht heq
    by_cases hid : s.nodeID = t.nodeID
    · exact List.inj_on_of_nodup_map (nodup_nodeIDs h) hs ht hid
    · exact absurd heq (hd s hs t ht hid)

lemma others (h : m.wgConfig order a = .ok ca) (b : Bytes) :
    b ∈ ca.peers.map WGPeer.nodeID ↔ b ≠ a ∧ (m.peers.lookup b).isSome := by
  simp only [List.mem_map, mem_peers h, Option.isSome_iff_exists]
  constructor
  · rintro ⟨s, ⟨b, p, hne, hp, rfl⟩, rfl⟩
    exact ⟨hne, p, hp⟩
  · rintro ⟨hne, p, hp⟩
    exact ⟨_, ⟨b, p, hne, hp, rfl⟩, rfl⟩

lemma consistent_iff (hkey : m.keyPair = generateWireGuardKeyPair x25519 random)
    (order : Table.RangeOrder Bytes) : Consistent x25519 m ↔ Compatible m := by
  constructor
  · intro h
    constructor
    · intro a b p q hab hp hq
      obtain ⟨ca, ha⟩ := wgConfig_of_lookup order hp
      obtain ⟨cb, hb⟩ := wgConfig_of_lookup order hq
      have hmem : p.section a ∈ cb.peers := (mem_peers hb).mpr ⟨a, p, hab, hp, rfl⟩
      obtain ⟨scalar, hprivate, hpublic⟩ := h.keys order a b ca cb hab ha hb _ hmem rfl
      rw [(wgConfig_eq_ok ha).2.1, hkey] at hprivate
      rw [hkey]
      exact hpublic.trans (by rw [← hexEncode_injective hprivate]; rfl)
    · intro a b c p q r hab hac hbc hp hq hr heq
      obtain ⟨cc, hc⟩ := wgConfig_of_lookup order hr
      have hdistinct := (nodup_allowedIPs_iff hc).mp (h.addresses order c cc hc)
      have ha : p.section a ∈ cc.peers := (mem_peers hc).mpr ⟨a, p, hac, hp, rfl⟩
      have hb : q.section b ∈ cc.peers := (mem_peers hc).mpr ⟨b, q, hbc, hq, rfl⟩
      exact hdistinct _ ha _ hb hab (congrArg (· ++ ascii "/32") heq)
  · intro h
    refine ⟨?_, fun order a ca ha => ⟨nodup_nodeIDs ha, others ha⟩, ?_⟩
    · intro order a b ca cb hab ha hb s hs hid
      obtain ⟨a, p, -, hp, rfl⟩ := (mem_peers hb).mp hs
      obtain ⟨q, hq⟩ := (wgConfig_eq_ok hb).1
      obtain rfl : a = _ := hid
      have hpublic := h.keys a b p q hab hp hq
      rw [hkey] at hpublic
      rw [(wgConfig_eq_ok ha).2.1, hkey]
      exact ⟨_, rfl, hpublic⟩
    · intro order c cc hc
      apply (nodup_allowedIPs_iff hc).mpr
      intro s hs t ht hne
      obtain ⟨a, p, hac, hp, rfl⟩ := (mem_peers hc).mp hs
      obtain ⟨b, q, hbc, hq, rfl⟩ := (mem_peers hc).mp ht
      obtain ⟨r, hr⟩ := (wgConfig_eq_ok hc).1
      intro heq
      exact h.addresses a b c p q r hne hac hbc hp hq hr (List.append_cancel_right heq)

end Configs

lemma step_keyPair {m m' : MeshNetwork} {op : Op} (h : step m op = some m') :
    m'.keyPair = m.keyPair := by
  cases op with
  | add peer =>
    obtain rfl := Option.some.inj h
    cases peer with
    | none => rfl
    | some peer =>
      simp only [MeshNetwork.addPeer]
      split_ifs <;> rfl
  | remove nodeID =>
    obtain rfl := Option.some.inj h
    simp only [MeshNetwork.removePeer]
    split <;> rfl

/-- In every state the configurations fit together exactly if the peers do: `GenerateWGConfig` writes
the network's private key for each of them, and `AddPeer` compares no addresses. -/
theorem configs_consistent_iff (x25519 : Bytes → Bytes) (random idBytes name cidr : Bytes)
    (ops : List Op) :
    Always step (fun m => Consistent x25519 m ↔ Compatible m)
      (newMeshNetwork x25519 random idBytes name cidr) ops := by
  have hkeys : Always step (fun m => m.keyPair = generateWireGuardKeyPair x25519 random)
      (newMeshNetwork x25519 random idBytes name cidr) ops :=
    always_invariant rfl fun m op m' hm h => (step_keyPair h).trans hm
  exact hkeys.mono fun m hm => consistent_iff hm .byCode

def flipped (scalar : Bytes) : Bytes := scalar.map (· ^^^ 1)

lemma flipped_injective : Function.Injective flipped := by
  apply List.map_injective_iff.mpr
  intro b c h
  have hb : b ^^^ 1 ^^^ 1 = c ^^^ 1 ^^^ 1 := congrArg (· ^^^ 1) h
  simpa [UInt8.xor_assoc] using hb

def examplePeer (nodeID meshIP : String) (random : UInt8) : MeshPeer where
  nodeID := ascii nodeID
  publicKey := (generateWireGuardKeyPair flipped (List.replicate 32 random)).publicKey
  meshIP := ascii meshIP
  endpoint := []

theorem configs_consistent_fails :
    Function.Injective flipped ∧
    (∃ m, run step (newMeshNetwork flipped (List.replicate 32 0) [] (ascii "net") (ascii "10.0.0.0/24"))
        [.add (some (examplePeer "a" "10.0.0.1" 8)), .add (some (examplePeer "b" "10.0.0.2" 16))] =
          some m ∧ ¬ Consistent flipped m) ∧
    ∃ m, run step (newMeshNetwork flipped (List.replicate 32 0) [] (ascii "net") (ascii "10.0.0.0/24"))
        [.add (some (examplePeer "a" "10.0.0.1" 0)), .add (some (examplePeer "b" "10.0.0.2" 0)),
          .add (some (examplePeer "c" "10.0.0.2" 0))] = some m ∧ ¬ Consistent flipped m := by
  refine ⟨flipped_injective, ⟨_, rfl, fun h => ?_⟩, _, rfl, fun h => ?_⟩
  · have hc := (consistent_iff rfl .byCode).mp h
    exact absurd (hc.keys (ascii "a") (ascii "b") (examplePeer "a" "10.0.0.1" 8)
      (examplePeer "b" "10.0.0.2" 16) (by decide) rfl rfl) (by decide)
  · have hc := (consistent_iff rfl .byCode).mp h
    exact hc.addresses (ascii "b") (ascii "c") (ascii "a") (examplePeer "b" "10.0.0.2" 0)
      (examplePeer "c" "10.0.0.2" 0) (examplePeer "a" "10.0.0.1" 0) (by decide) (by decide) (by decide)
      rfl rfl rfl rfl

end OmniTun.Network.WireGuard
