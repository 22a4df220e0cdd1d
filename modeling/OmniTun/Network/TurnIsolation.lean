import OmniTun.Network.Turn

/-! To whom the relay forwards a datagram. -/

namespace OmniTun.Network.Turn

open OmniTun.Foundation

variable {UDPAddr : Type} {net : Addressing UDPAddr}

namespace Allocation

/-- Two addresses are the same when they have the same text. -/
def Registered (addr : UDPAddr) (a : Allocation net) : Prop :=
  ∃ key peer, a.peerAddrs.lookup key = some peer ∧ net.string peer = net.string addr

def IsClient (addr : UDPAddr) (a : Allocation net) : Prop :=
  ∃ client, a.clientAddr = some client ∧ net.string client = net.string addr

def knows (remote : UDPAddr) (a : Allocation net) : Bool := a.isPeer remote || a.hasClient remote

lemma isPeer_iff {remote : UDPAddr} {a : Allocation net} :
    a.isPeer remote = true ↔ a.Registered remote := by
  rw [isPeer, Option.isSome_iff_exists]
  constructor
  · rintro ⟨peer, h⟩
    exact ⟨_, peer, h, a.keyed _ peer h⟩
  · rintro ⟨key, peer, h, hpeer⟩
    have hkey := a.keyed key peer h
    exact ⟨peer, by rw [← hpeer, hkey, h]⟩

lemma registered_registerPeer {addr peer : UDPAddr} {now : ℤ} {a : Allocation net} :
    (a.registerPeer peer now).Registered addr ↔
      net.string addr = net.string peer ∨ a.Registered addr := by
  have hlookup : (a.registerPeer peer now).peerAddrs.lookup (net.string addr) =
      if net.string addr = net.string peer then some peer else a.peerAddrs.lookup (net.string addr) :=
    Table.lookup_insert _ _ _ _
  rw [← isPeer_iff, ← isPeer_iff, isPeer, isPeer, hlookup]
  split_ifs with hsame <;> simp [hsame]

lemma hasClient_iff {remote : UDPAddr} {a : Allocation net} :
    a.hasClient remote = true ↔ a.IsClient remote := by
  rw [hasClient, IsClient]
  cases a.clientAddr <;> simp

lemma knows_iff {remote : UDPAddr} {a : Allocation net} :
    a.knows remote = true ↔ a.Registered remote ∨ a.IsClient remote := by
  rw [knows, Bool.or_eq_true, isPeer_iff, hasClient_iff]

end Allocation

/-- What is sent for an allocation goes from its client to its peers or the other way, every
allocation of a peer gets what the peer sends, and the rest is dropped. -/
structure Isolates (data : Bytes) (remote : UDPAddr) (allocations : Allocations net)
    (r : List (Forwarded UDPAddr) × Allocations net) : Prop where
  permitted : ∀ d ∈ r.1, ∃ a, allocations.lookup d.allocID = some a ∧
    ((a.IsClient remote ∧ a.Registered d.addr ∧ d.data = data) ∨
      (a.Registered remote ∧ a.clientAddr = some d.addr ∧
        d.data = wrapRelayForward net data remote))
  delivered : ∀ id a client, allocations.lookup id = some a → a.Registered remote →
    a.clientAddr = some client → ⟨id, client, wrapRelayForward net data remote⟩ ∈ r.1
  dropped : (∀ id a, allocations.lookup id = some a → ¬ a.Registered remote ∧ ¬ a.IsClient remote) →
    r = ([], allocations)

section

variable {now : ℤ} {data : Bytes} {remote : UDPAddr} {order : Table.RangeOrder Bytes}
  {allocations : Allocations net}

def firstKnowing (remote : UDPAddr) (order : Table.RangeOrder Bytes)
    (allocations : Allocations net) : Option (Bytes × Allocation net) :=
  (order.entries allocations).find? fun e => e.2.knows remote

lemma firstKnowing_some {id : Bytes} {a : Allocation net}
    (h : firstKnowing remote order allocations = some (id, a)) :
    allocations.lookup id = some a ∧ (a.Registered remote ∨ a.IsClient remote) := by
  have hmem := List.mem_of_find?_eq_some h
  have hknows : a.knows remote = true := by simpa using List.find?_some h
  exact ⟨(order.mem_entries allocations id a).mp hmem, Allocation.knows_iff.mp hknows⟩

lemma firstKnowing_none (h : firstKnowing remote order allocations = none) {id : Bytes}
    {a : Allocation net} (ha : allocations.lookup id = some a) :
    ¬ a.Registered remote ∧ ¬ a.IsClient remote := by
  have hmem := (order.mem_entries allocations id a).mpr ha
  have hknows := List.find?_eq_none.mp h (id, a) hmem
  rw [Allocation.knows_iff] at hknows
  exact not_or.mp hknows

def stopAt (now : ℤ) (data : Bytes) (remote : UDPAddr) (allocations : Allocations net) :
    Option (Bytes × Allocation net) → List (Forwarded UDPAddr) × Allocations net
  | none => ([], allocations)
  | some e => handleEntries now data remote allocations [e]

lemma handleEntries_eq (es : List (Bytes × Allocation net)) :
    handleEntries now data remote allocations es =
      stopAt now data remote allocations (es.find? fun e => e.2.knows remote) := by
  induction es with
  | nil => rfl
  | cons e es ih =>
    obtain ⟨id, a⟩ := e
    cases hknows : a.knows remote with
    | true =>
      have hfind : ((id, a) :: es).find? (fun e => e.2.knows remote) = some (id, a) := by
        simp [hknows]
      rw [hfind, stopAt, handleEntries, handleEntries]
      rw [Allocation.knows, Bool.or_eq_true] at hknows
      rcases hknows with h | h <;> simp [h]
    | false =>
      have hfind : ((id, a) :: es).find? (fun e => e.2.knows remote) =
          es.find? fun e => e.2.knows remote := by simp [hknows]
      rw [hfind, ← ih, handleEntries]
      rw [Allocation.knows, Bool.or_eq_false_iff] at hknows
      simp [hknows]

lemma handleIncomingData_eq :
    handleIncomingData now data remote order allocations =
      stopAt now data remote allocations (firstKnowing remote order allocations) :=
  handleEntries_eq _

def Forwards (data : Bytes) (remote : UDPAddr) (a : Allocation net) (addr : UDPAddr)
    (sent : Bytes) : Prop :=
  (a.Registered remote ∧ a.clientAddr = some addr ∧ sent = wrapRelayForward net data remote) ∨
    (¬ a.Registered remote ∧ parsePeerFromRelayData net data = some addr ∧ sent = data)

lemma mem_stopAt {id : Bytes} {a : Allocation net} (h : a.Registered remote ∨ a.IsClient remote)
    {d : Forwarded UDPAddr} :
    d ∈ (stopAt now data remote allocations (some (id, a))).1 ↔
      d.allocID = id ∧ Forwards data remote a d.addr d.data := by
  obtain ⟨allocID, addr, sent⟩ := d
  by_cases hpeer : a.Registered remote
  · have hisPeer : a.isPeer remote = true := Allocation.isPeer_iff.mpr hpeer
    cases hclient : a.clientAddr with
    | some client =>
      simp [stopAt, handleEntries, Forwards, hisPeer, hpeer, hclient, eq_comm]
    | none => simp [stopAt, handleEntries, Forwards, hisPeer, hpeer, hclient]
  · have hisPeer : a.isPeer remote = false := by
      rw [← Bool.not_eq_true, Allocation.isPeer_iff]
      exact hpeer
    have hhasClient : a.hasClient remote = true :=
      Allocation.hasClient_iff.mpr (h.resolve_left hpeer)
    cases hnamed : parsePeerFromRelayData net data with
    | some peer =>
      simp [stopAt, handleEntries, Forwards, hisPeer, hpeer, hhasClient, hnamed, eq_comm]
    | none => simp [stopAt, handleEntries, Forwards, hisPeer, hpeer, hhasClient, hnamed]

lemma mem_handleIncomingData {d : Forwarded UDPAddr} :
    d ∈ (handleIncomingData now data remote order allocations).1 ↔
      ∃ a, firstKnowing remote order allocations = some (d.allocID, a) ∧
        Forwards data remote a d.addr d.data := by
  rw [handleIncomingData_eq]
  cases hfirst : firstKnowing remote order allocations with
  | none => simp [stopAt]
  | some e =>
    obtain ⟨id, a⟩ := e
    rw [mem_stopAt (firstKnowing_some hfirst).2]
    constructor
    · rintro ⟨rfl, h⟩
      exact ⟨a, rfl, h⟩
    · rintro ⟨a', he, h⟩
      cases he
      exact ⟨rfl, h⟩

def Receives (remote : UDPAddr) (a : Allocation net) : Prop :=
  a.Registered remote ∧ a.clientAddr ≠ none

def NamesPeer (data : Bytes) (remote : UDPAddr) (a : Allocation net) : Prop :=
  a.Registered remote ∨ ∀ peer, parsePeerFromRelayData net data = some peer → a.Registered peer

lemma isolates_of
    (hreceives : ∀ id a, allocations.lookup id = some a → Receives remote a →
      firstKnowing remote order allocations = some (id, a))
    (hnames : ∀ id a, firstKnowing remote order allocations = some (id, a) →
      NamesPeer data remote a) :
    Isolates data remote allocations (handleIncomingData now data remote order allocations) where
  permitted := by
    intro d hd
    obtain ⟨a, hfirst, hforwards⟩ := mem_handleIncomingData.mp hd
    obtain ⟨ha, hknown⟩ := firstKnowing_some hfirst
    refine ⟨a, ha, ?_⟩
    rcases hforwards with hpeer | ⟨hpeer, hnamed, hdata⟩
    · exact .inr hpeer
    · have hregistered := (hnames _ a hfirst).resolve_left hpeer d.addr hnamed
      exact .inl ⟨hknown.resolve_left hpeer, hregistered, hdata⟩
  delivered := by
    intro id a client ha hpeer hclient
    apply mem_handleIncomingData.mpr
    exact ⟨a, hreceives id a ha ⟨hpeer, by simp [hclient]⟩, .inl ⟨hpeer, hclient, rfl⟩⟩
  dropped := by
    intro hunknown
    have hnone : firstKnowing remote order allocations = none := by
      cases hfirst : firstKnowing remote order allocations with
      | none => rfl
      | some e =>
        obtain ⟨ha, hknown⟩ := firstKnowing_some hfirst
        obtain ⟨hpeer, hclient⟩ := hunknown e.1 e.2 ha
        exact (hknown.elim hpeer hclient).elim
    rw [handleIncomingData_eq, hnone]
    rfl

section

variable (h : Isolates data remote allocations
  (handleIncomingData now data remote order allocations))

include h

lemma receives_first {id : Bytes} {a : Allocation net} (ha : allocations.lookup id = some a)
    (hr : Receives remote a) : firstKnowing remote order allocations = some (id, a) := by
  obtain ⟨hpeer, hsome⟩ := hr
  obtain ⟨client, hclient⟩ := Option.ne_none_iff_exists'.mp hsome
  have hsent := h.delivered id a client ha hpeer hclient
  obtain ⟨a', hfirst, -⟩ := mem_handleIncomingData.mp hsent
  have ha' := (firstKnowing_some hfirst).1
  rw [ha] at ha'
  rw [hfirst, Option.some.inj ha']

lemma first_namesPeer {id : Bytes} {a : Allocation net}
    (hfirst : firstKnowing remote order allocations = some (id, a)) : NamesPeer data remote a := by
  by_cases hpeer : a.Registered remote
  · exact .inl hpeer
  · refine .inr fun peer hnamed => ?_
    have hsent : ⟨id, peer, data⟩ ∈ (handleIncomingData now data remote order allocations).1 :=
      mem_handleIncomingData.mpr ⟨a, hfirst, .inr ⟨hpeer, hnamed, rfl⟩⟩
    obtain ⟨a', ha', hpermitted⟩ := h.permitted _ hsent
    rw [(firstKnowing_some hfirst).1] at ha'
    obtain rfl := Option.some.inj ha'
    rcases hpermitted with ⟨-, hregistered, -⟩ | ⟨hregistered, -⟩
    · exact hregistered
    · exact absurd hregistered hpeer

end

lemma isolates_iff_first :
    Isolates data remote allocations (handleIncomingData now data remote order allocations) ↔
      (∀ id a, allocations.lookup id = some a → Receives remote a →
        firstKnowing remote order allocations = some (id, a)) ∧
      ∀ id a, firstKnowing remote order allocations = some (id, a) → NamesPeer data remote a :=
  ⟨fun h => ⟨fun _ _ => receives_first h, fun _ _ => first_namesPeer h⟩,
    fun h => isolates_of h.1 h.2⟩

/-! Every allocation that knows the source comes first in some order. -/

lemma firstKnowing_startingWith {id : Bytes} {a : Allocation net}
    (ha : allocations.lookup id = some a) (h : a.Registered remote ∨ a.IsClient remote) :
    firstKnowing remote (order.startingWith id) allocations = some (id, a) := by
  obtain ⟨rest, hentries⟩ := order.entries_startingWith id ha
  rw [firstKnowing, hentries]
  simp [Allocation.knows_iff.mpr h]

lemma isolates_every_order_iff :
    (∀ order, Isolates data remote allocations
        (handleIncomingData now data remote order allocations)) ↔
      (∀ id a, allocations.lookup id = some a → Receives remote a →
        ∀ id' a', allocations.lookup id' = some a' → a'.Registered remote ∨ a'.IsClient remote →
          id' = id) ∧
      ∀ id a, allocations.lookup id = some a → a.IsClient remote → NamesPeer data remote a := by
  constructor
  · intro h
    refine ⟨?_, ?_⟩
    · intro id a ha hr id' a' ha' hknown
      have hfirst := receives_first (h (Table.RangeOrder.byCode.startingWith id')) ha hr
      rw [firstKnowing_startingWith ha' hknown] at hfirst
      cases hfirst
      rfl
    · intro id a ha hclient
      apply first_namesPeer (h (Table.RangeOrder.byCode.startingWith id))
      exact firstKnowing_startingWith ha (.inr hclient)
  · rintro ⟨halone, hnames⟩ order
    apply isolates_of
    · intro id a ha hr
      cases hfirst : firstKnowing remote order allocations with
      | none => exact absurd hr.1 (firstKnowing_none hfirst ha).1
      | some e =>
        obtain ⟨id', a'⟩ := e
        obtain ⟨ha', hknown⟩ := firstKnowing_some hfirst
        obtain rfl := halone id a ha hr id' a' ha' hknown
        rw [ha] at ha'
        rw [Option.some.inj ha']
    · intro id a hfirst
      obtain ⟨ha, hknown⟩ := firstKnowing_some hfirst
      rcases hknown with hpeer | hclient
      · exact .inl hpeer
      · exact hnames id a ha hclient

/-- In one order of the allocations, all that are to get the datagram must be the first to know its
source; in every order, none else may know it. A client must name peers of its own allocation. -/
theorem isolates_iff (now : ℤ) (data : Bytes) (remote : UDPAddr) (allocations : Allocations net) :
    (∀ order, Isolates data remote allocations
        (handleIncomingData now data remote order allocations) ↔
      (∀ id a, allocations.lookup id = some a → Receives remote a →
        firstKnowing remote order allocations = some (id, a)) ∧
      ∀ id a, firstKnowing remote order allocations = some (id, a) → NamesPeer data remote a) ∧
    ((∀ order, Isolates data remote allocations
        (handleIncomingData now data remote order allocations)) ↔
      (∀ id a, allocations.lookup id = some a → Receives remote a →
        ∀ id' a', allocations.lookup id' = some a' → a'.Registered remote ∨ a'.IsClient remote →
          id' = id) ∧
      ∀ id a, allocations.lookup id = some a → a.IsClient remote → NamesPeer data remote a) :=
  ⟨fun _ => isolates_iff_first, isolates_every_order_iff⟩

end

def lonelyClient : Allocation plainText where
  id := ascii "0123456789abcdef"
  username := ascii "ann"
  clientAddr := some (ascii "192.0.2.1:5000")
  peerAddrs := ∅
  createdAt := 0
  lastActive := 0
  bytesSent := 0
  bytesRecv := 0
  keyed _ _ h := by simp at h

def onlyLonely : Allocations plainText :=
  (∅ : Table Bytes (Allocation plainText)).insert lonelyClient.id lonelyClient

theorem isolates_fails :
    ¬ ∀ (now : ℤ) (data remote : Bytes) (order : Table.RangeOrder Bytes)
      (allocations : Allocations plainText),
      Isolates data remote allocations
        (handleIncomingData now data remote order allocations) := by
  intro h
  have hparse : parsePeerFromRelayData plainText (relayTo (ascii "198.51.100.9:53") []) =
      some (ascii "198.51.100.9:53") := parsePeer_relayTo _ (by simp [ascii]) _
  have halone : onlyLonely.lookup lonelyClient.id = some lonelyClient := by simp [onlyLonely]
  have hclient : lonelyClient.IsClient (ascii "192.0.2.1:5000") := ⟨_, rfl, rfl⟩
  have hnone : ∀ addr, ¬ lonelyClient.Registered addr := by
    rintro addr ⟨key, peer, hpeer, -⟩
    simp [lonelyClient] at hpeer
  have hnames := first_namesPeer (h 0 (relayTo (ascii "198.51.100.9:53") []) (ascii "192.0.2.1:5000")
    (Table.RangeOrder.byCode.startingWith lonelyClient.id) onlyLonely)
    (firstKnowing_startingWith halone (.inr hclient))
  rcases hnames with hregistered | hregistered
  · exact hnone _ hregistered
  · exact hnone _ (hregistered _ hparse)

end OmniTun.Network.Turn
