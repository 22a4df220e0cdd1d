import OmniTun.Foundation.BigEndian
import OmniTun.Foundation.NetAddress

/-! STUN binding responses: how the server builds one, and what the client reads from whatever it
receives in its place. -/

namespace OmniTun.Network.Stun

open OmniTun.Foundation OmniTun.Foundation.Numerals OmniTun.Foundation.NetAddress

def stunMagicCookie : ℕ := 0x2112A442

def stunAttrMappedAddress : ℕ := 0x0001
def stunAttrXorMappedAddress : ℕ := 0x0020

def stunBindingRequest : ℕ := 0x0001
def stunBindingSuccess : ℕ := 0x0101

def magicBytes : Bytes := BigEndian.put 4 stunMagicCookie

/-! The server. -/

structure UDPAddr where
  ip : Bytes
  port : ℕ

def xorBytes (bs key : Bytes) : Bytes := List.zipWith (· ^^^ ·) bs key

def xport (port : ℕ) : ℕ := (port % 2 ^ 16) ^^^ (stunMagicCookie / 2 ^ 16)

def buildXorMappedAddrAttr (addr : UDPAddr) : Option Bytes :=
  match to4 addr.ip with
  | some ip =>
    some (BigEndian.put 2 stunAttrXorMappedAddress ++ BigEndian.put 2 8 ++
      [0, 0x01] ++ BigEndian.put 2 (xport addr.port) ++ xorBytes ip magicBytes)
  | none =>
    (to16 addr.ip).map fun ip16 =>
      let xorKey := magicBytes ++ List.replicate 12 0
      BigEndian.put 2 stunAttrXorMappedAddress ++ BigEndian.put 2 20 ++
        [0, 0x02] ++ BigEndian.put 2 (xport addr.port) ++ xorBytes ip16 xorKey

def buildBindingResponse (txID : Bytes) (clientAddr : UDPAddr) : Option Bytes :=
  (buildXorMappedAddrAttr clientAddr).map fun xorAddr =>
    BigEndian.put 2 stunBindingSuccess ++ BigEndian.put 2 xorAddr.length ++
      BigEndian.put 4 stunMagicCookie ++ (txID ++ List.replicate 12 0).take 12 ++ xorAddr

/-! The client. Slices and indices are checked; `none` is a run-time panic. -/

def slice (s : Bytes) (low high : ℕ) : Option Bytes :=
  if low ≤ high ∧ high ≤ s.length then some ((s.drop low).take (high - low)) else none

def uint (s : Bytes) (low high : ℕ) : Option ℕ := (slice s low high).map BigEndian.get

inductive StunError
  | responseTooShort (length : ℕ)
  | unexpectedMessageType (msgType : ℕ)
  | invalidMagicCookie (magic : ℕ)
  | truncatedMessage (have_ need : ℕ)
  | noMappedAddress
  | attributeTooShort (length : ℕ)
  | unsupportedFamily (family : UInt8)
  deriving DecidableEq, Repr

def StunError.error : StunError → Bytes
  | .responseTooShort n => ascii "response too short: " ++ natNumeral n ++ ascii " bytes"
  | .unexpectedMessageType t =>
    ascii "unexpected message type: 0x" ++ hexEncode (BigEndian.put 2 t)
  | .invalidMagicCookie m => ascii "invalid magic cookie: 0x" ++ hexEncode (BigEndian.put 4 m)
  | .truncatedMessage h n =>
    ascii "truncated message: have " ++ natNumeral h ++ ascii ", need " ++ natNumeral n
  | .noMappedAddress => ascii "no MAPPED-ADDRESS or XOR-MAPPED-ADDRESS in response"
  | .attributeTooShort n =>
    ascii "address attribute too short: " ++ natNumeral n ++ ascii " bytes"
  | .unsupportedFamily f => ascii "unsupported address family: 0x" ++ hexEncode [f]

def xorFrom (attrData key : Bytes) (i : ℕ) : ℕ → Option Bytes
  | 0 => some []
  | n + 1 => do
    let b ← attrData[4 + i]?
    let k ← key[i]?
    let rest ← xorFrom attrData key (i + 1) n
    return (b ^^^ k) :: rest

def decodeAddressAttribute (attrData : Bytes) (attrType : ℕ) (magicCookie : Bytes) :
    Option (Except StunError Bytes) := do
  if attrData.length < 5 then
    return .error (.attributeTooShort attrData.length)
  let family ← attrData[1]?
  let xport ← uint attrData 2 4
  let xportRaw ←
    if attrType = stunAttrXorMappedAddress then (uint magicCookie 0 2).map (xport ^^^ ·)
    else some xport
  if family = 0x01 ∧ 8 ≤ attrData.length then
    let ip ←
      if attrType = stunAttrXorMappedAddress then xorFrom attrData magicCookie 0 4
      else slice attrData 4 8
    return .ok (hostPort ip xportRaw)
  if family = 0x02 ∧ 20 ≤ attrData.length then
    let xorKey := magicCookie.take 4 ++ List.replicate (16 - (magicCookie.take 4).length) 0
    let ip ←
      if attrType = stunAttrXorMappedAddress then xorFrom attrData xorKey 0 16
      else slice attrData 4 20
    return .ok (hostPort ip xportRaw)
  return .error (.unsupportedFamily family)

def padded (attrLen : ℕ) : ℕ :=
  if attrLen % 4 ≠ 0 then attrLen + (4 - attrLen % 4) else attrLen

def scanAttributes (attrs magicCookie : Bytes) (pos : ℕ) : Option (Except StunError Bytes) :=
  if _h : pos + 4 ≤ attrs.length then
    (uint attrs pos (pos + 2)).bind fun attrType =>
      (uint attrs (pos + 2) (pos + 4)).bind fun attrLen =>
        if attrs.length < pos + 4 + attrLen then some (.error .noMappedAddress)
        else if attrType = stunAttrXorMappedAddress ∨ attrType = stunAttrMappedAddress then
          (slice attrs (pos + 4) (pos + 4 + attrLen)).bind fun addrData =>
            decodeAddressAttribute addrData attrType magicCookie
        else scanAttributes attrs magicCookie (pos + 4 + padded attrLen)
  else some (.error .noMappedAddress)
termination_by attrs.length - pos

def getMappedFromResponse (resp : Bytes) : Option (Except StunError Bytes) := do
  let msgLen ← uint resp 2 4
  if resp.length < 20 + msgLen then
    return .error (.truncatedMessage resp.length (20 + msgLen))
  let attrs ← slice resp 20 (20 + msgLen)
  let magicCookie ← slice resp 4 8
  scanAttributes attrs magicCookie 0

def parseXorMappedAddress (data : Bytes) : Option (Except StunError Bytes) := do
  if data.length < 20 then
    return .error (.responseTooShort data.length)
  let msgType ← uint data 0 2
  if msgType ≠ stunBindingSuccess then
    return .error (.unexpectedMessageType msgType)
  let magic ← uint data 4 8
  if magic ≠ stunMagicCookie then
    return .error (.invalidMagicCookie magic)
  let msgLen ← uint data 2 4
  if data.length < 20 + msgLen then
    return .error (.truncatedMessage data.length (20 + msgLen))
  getMappedFromResponse data

def newTxID (random : Option (Fin 12 → UInt8)) (now : ℤ) : Bytes :=
  match random with
  | some bytes => List.ofFn bytes
  | none =>
    BigEndian.put 8 (now % 2 ^ 64).toNat ++ BigEndian.put 4 (now / 2 ^ 32 % 2 ^ 32).toNat

def buildBindingRequest (random : Option (Fin 12 → UInt8)) (now : ℤ) : Bytes :=
  BigEndian.put 2 stunBindingRequest ++ BigEndian.put 2 0 ++ BigEndian.put 4 stunMagicCookie ++
    newTxID random now

/-- What the calls of one `GetMappedAddress` give: their errors, and the datagram that comes. -/
structure Exchange where
  dialErr : Option Bytes
  random : Option (Fin 12 → UInt8)
  now : ℤ
  writeErr : Option Bytes
  deadlineErr : Option Bytes
  read : Except Bytes Bytes

def Exchange.request (e : Exchange) : Bytes := buildBindingRequest e.random e.now

/-- `conn.Read` drops what its buffer does not hold. -/
def getMappedAddress (serverAddr : Bytes) (e : Exchange) : Option (Except Bytes Bytes) :=
  match e.dialErr with
  | some err => some (.error (ascii "connect to STUN server " ++ serverAddr ++ ascii ": " ++ err))
  | none =>
    match e.writeErr with
    | some err => some (.error (ascii "send binding request: " ++ err))
    | none =>
      match e.deadlineErr with
      | some err => some (.error (ascii "set read deadline: " ++ err))
      | none =>
        match e.read with
        | .error err => some (.error (ascii "read response: " ++ err))
        | .ok datagram =>
          (parseXorMappedAddress (datagram.take 2048)).map (·.mapError StunError.error)

/-! What is in range. -/

lemma slice_eq {s : Bytes} {low high : ℕ} (hl : low ≤ high) (hh : high ≤ s.length) :
    slice s low high = some ((s.drop low).take (high - low)) :=
  if_pos ⟨hl, hh⟩

lemma uint_eq {s : Bytes} {low high : ℕ} (hl : low ≤ high) (hh : high ≤ s.length) :
    uint s low high = some (BigEndian.get ((s.drop low).take (high - low))) := by
  rw [uint, slice_eq hl hh, Option.map_some]

lemma xorFrom_eq {attrData key : Bytes} {i n : ℕ} (hd : 4 + i + n ≤ attrData.length)
    (hk : i + n ≤ key.length) :
    xorFrom attrData key i n =
      some (xorBytes ((attrData.drop (4 + i)).take n) ((key.drop i).take n)) := by
  induction n generalizing i with
  | zero => simp [xorFrom, xorBytes]
  | succ n ih =>
    have hrest := ih (i := i + 1) (by omega) (by omega)
    have hd' : 4 + i < attrData.length := by omega
    have hk' : i < key.length := by omega
    rw [xorFrom, hrest, List.getElem?_eq_getElem hd', List.getElem?_eq_getElem hk',
      List.drop_eq_getElem_cons hd', List.drop_eq_getElem_cons hk']
    rfl

end OmniTun.Network.Stun
