import OmniTun.Foundation.BigEndian
import OmniTun.Foundation.Numerals
import OmniTun.Foundation.Table
import OmniTun.Foundation.Transport

/-! The relay of datagrams between the clients and the peers of allocations. -/

namespace OmniTun.Network.Turn

open OmniTun.Foundation

structure Addressing (UDPAddr : Type) where
  string : UDPAddr → Bytes
  resolveUDPAddr : Bytes → Option UDPAddr

def plainText : Addressing Bytes where
  string := id
  resolveUDPAddr := some

variable {UDPAddr : Type}

structure Allocation (net : Addressing UDPAddr) where
  id : Bytes
  username : Bytes
  clientAddr : Option UDPAddr
  peerAddrs : Table Bytes UDPAddr
  createdAt : ℤ
  lastActive : ℤ
  bytesSent : UInt64
  bytesRecv : UInt64
  keyed : ∀ key peer, peerAddrs.lookup key = some peer → net.string peer = key

variable {net : Addressing UDPAddr}

abbrev Allocations (net : Addressing UDPAddr) : Type := Table Bytes (Allocation net)

namespace Allocation

def registerPeer (peer : UDPAddr) (now : ℤ) (a : Allocation net) : Allocation net :=
  { a with
    peerAddrs := a.peerAddrs.insert (net.string peer) peer
    lastActive := now
    keyed := by
      intro key peer' h
      rw [Table.lookup_insert] at h
      split_ifs at h with hkey
      · rw [← Option.some.inj h, hkey]
      · exact a.keyed key peer' h }

def renewed (now : ℤ) (a : Allocation net) : Allocation net := { a with lastActive := now }

def new (id username : Bytes) (createdAt lastActive : ℤ) : Allocation net where
  id := id
  username := username
  clientAddr := none
  peerAddrs := ∅
  createdAt := createdAt
  lastActive := lastActive
  bytesSent := 0
  bytesRecv := 0
  keyed key peer h := by simp at h

def isPeer (remote : UDPAddr) (a : Allocation net) : Bool :=
  (a.peerAddrs.lookup (net.string remote)).isSome

def hasClient (remote : UDPAddr) (a : Allocation net) : Bool :=
  a.clientAddr.any fun client => net.string client = net.string remote

def received (n : ℕ) (now : ℤ) (a : Allocation net) : Allocation net :=
  { a with bytesRecv := a.bytesRecv + UInt64.ofNat n, lastActive := now }

def sent (n : ℕ) (now : ℤ) (a : Allocation net) : Allocation net :=
  { a with bytesSent := a.bytesSent + UInt64.ofNat n, lastActive := now }

end Allocation

def registerPeer (allocID : Bytes) (peer : UDPAddr) (now : ℤ) (allocations : Allocations net) :
    Option Bytes × Allocations net :=
  match allocations.lookup allocID with
  | none => (none, allocations)
  | some alloc => (some (net.string peer), allocations.insert allocID (alloc.registerPeer peer now))

def wrapRelayData (data : Bytes) : Bytes := [0x40, 0x01] ++ data

def wrapRelayForward (net : Addressing UDPAddr) (data : Bytes) (peer : UDPAddr) : Bytes :=
  [0x40, 0x02] ++ BigEndian.put 2 (net.string peer).length ++ net.string peer ++ data

def parsePeerFromRelayData (net : Addressing UDPAddr) (data : Bytes) : Option UDPAddr :=
  if data.length < 4 then none
  else if data.take 2 ≠ [0x40, 0x03] then none
  else
    let peerLen := BigEndian.get ((data.drop 2).take 2)
    if data.length < 4 + peerLen then none
    else net.resolveUDPAddr ((data.drop 4).take peerLen)

def relayTo (addr data : Bytes) : Bytes :=
  [0x40, 0x03] ++ BigEndian.put 2 addr.length ++ addr ++ data

lemma parsePeer_relayTo {addr : Bytes} (net : Addressing UDPAddr) (h : addr.length < 65536)
    (data : Bytes) :
    parsePeerFromRelayData net (relayTo addr data) = net.resolveUDPAddr addr := by
  have hlen : (BigEndian.put 2 addr.length).length = 2 := BigEndian.put_length 2 addr.length
  have hget : BigEndian.get (((relayTo addr data).drop 2).take 2) = addr.length := by
    simp [relayTo, hlen]
    omega
  have hrest : (relayTo addr data).drop 4 = addr ++ data := by
    simp [relayTo, hlen]
  have hlength : (relayTo addr data).length = 4 + addr.length + data.length := by
    simp [relayTo]
    omega
  rw [parsePeerFromRelayData, if_neg (by omega), if_neg (by simp [relayTo]), hget, hrest]
  simp only [hlength]
  rw [if_neg (by omega), List.take_left]

structure Forwarded (UDPAddr : Type) where
  allocID : Bytes
  addr : UDPAddr
  data : Bytes

section

variable (now : ℤ) (data : Bytes) (remote : UDPAddr)

def handleEntries (allocations : Allocations net) :
    List (Bytes × Allocation net) → List (Forwarded UDPAddr) × Allocations net
  | [] => ([], allocations)
  | (id, alloc) :: rest =>
    if alloc.isPeer remote then
      match alloc.clientAddr with
      | some client =>
        ([⟨id, client, wrapRelayForward net data remote⟩],
          allocations.insert id (alloc.received data.length now))
      | none => ([], allocations)
    else if alloc.hasClient remote then
      match parsePeerFromRelayData net data with
      | some peer => ([⟨id, peer, data⟩], allocations.insert id (alloc.sent data.length now))
      | none => ([], allocations)
    else handleEntries allocations rest

def handleIncomingData (order : Table.RangeOrder Bytes) (allocations : Allocations net) :
    List (Forwarded UDPAddr) × Allocations net :=
  handleEntries now data remote allocations (order.entries allocations)

end

/-! The relay's own table. -/

inductive TurnError
  | stopped
  | allocationExists
  | allocationNotFound
  | generateAllocationID (err : Bytes)
  | sendToPeer (peer err : Bytes)
  | close (err : Bytes)
  deriving DecidableEq, Repr

def TurnError.error : TurnError → Bytes
  | .stopped => ascii "TURN relay has been stopped"
  | .allocationExists => ascii "allocation already exists"
  | .allocationNotFound => ascii "allocation not found"
  | .generateAllocationID err => ascii "generate allocation ID: " ++ err
  | .sendToPeer peer err => ascii "send to peer " ++ peer ++ ascii ": " ++ err
  | .close err => err

structure Relay (net : Addressing UDPAddr) where
  allocations : Allocations net
  conn : Bool
  closed : Bool

def allocTTL : ℤ := 5 * 60 * 10 ^ 9

/-- `time.Time.Sub` saturates. -/
def sub (now lastActive : ℤ) : ℤ := max (-2 ^ 63) (min (2 ^ 63 - 1) (now - lastActive))

namespace Relay

def newTURNRelay : Relay net := ⟨∅, false, false⟩

def start (t : Relay net) : Relay net := { t with conn := true, closed := false }

def stop (closeErr : Option Bytes) (t : Relay net) : Option TurnError × Relay net :=
  if t.closed then (some .stopped, t)
  else
    match t.conn, closeErr with
    | true, some err => (some (.close err), { t with closed := true })
    | _, _ => (none, { t with closed := true, allocations := ∅ })

def createAllocation (order : Table.RangeOrder Bytes) (username : Bytes)
    (random : Except Bytes (Fin 8 → UInt8)) (createdAt now : ℤ) (t : Relay net) :
    (Option (Allocation net) × Option TurnError) × Relay net :=
  if t.closed then ((none, some .stopped), t)
  else
    match (order.entries t.allocations).find? fun e => e.2.username = username with
    | some (id, a) =>
      ((some (a.renewed now), some .allocationExists),
        { t with allocations := t.allocations.insert id (a.renewed now) })
    | none =>
      match random with
      | .error err => ((none, some (.generateAllocationID err)), t)
      | .ok idBytes =>
        let id := Numerals.hexEncode (List.ofFn idBytes)
        let alloc := Allocation.new id username createdAt now
        ((some alloc, none), { t with allocations := t.allocations.insert id alloc })

def removeAllocation (allocID : Bytes) (t : Relay net) : Option TurnError × Relay net :=
  if t.closed then (some .stopped, t)
  else
    match t.allocations.lookup allocID with
    | none => (some .allocationNotFound, t)
    | some _ => (none, { t with allocations := t.allocations.erase allocID })

def registerPeer (allocID : Bytes) (peer : UDPAddr) (now : ℤ) (t : Relay net) :
    Except TurnError Bytes × Relay net :=
  match Turn.registerPeer allocID peer now t.allocations with
  | (none, _) => (.error .allocationNotFound, t)
  | (some peerKey, allocations) => (.ok peerKey, { t with allocations := allocations })

def sendTo (allocID data : Bytes) (peer : UDPAddr) (written : Except Bytes ℕ) (now : ℤ)
    (t : Relay net) : Option TurnError × List (Forwarded UDPAddr) × Relay net :=
  match t.allocations.lookup allocID with
  | none => (some .allocationNotFound, [], t)
  | some alloc =>
    if t.conn then
      match written with
      | .error err => (some (.sendToPeer (net.string peer) err), [], t)
      | .ok n =>
        (none, [⟨allocID, peer, wrapRelayData data⟩],
          { t with allocations := t.allocations.insert allocID (alloc.sent n now) })
    else (some .stopped, [], t)

def cleanupExpired (order : Table.RangeOrder Bytes) (now : ℤ) (t : Relay net) : Relay net :=
  { t with
    allocations := (order.entries t.allocations).foldl (fun allocations e =>
      if allocTTL < sub now e.2.lastActive then allocations.erase e.1 else allocations)
      t.allocations }

def handleIncomingData (order : Table.RangeOrder Bytes) (data : Bytes) (remote : UDPAddr)
    (now : ℤ) (t : Relay net) : List (Forwarded UDPAddr) × Relay net :=
  match Turn.handleIncomingData now data remote order t.allocations with
  | (sent, allocations) => (sent, { t with allocations := allocations })

end Relay

end OmniTun.Network.Turn
