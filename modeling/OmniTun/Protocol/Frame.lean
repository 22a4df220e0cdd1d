import OmniTun.Foundation.BigEndian
import OmniTun.Foundation.Transport

/-! The Vector Stream binary frame:
Magic(2) | Version(1) | Type(1) | Flags(1) | StreamID(8) | Length(4) | Payload(N). -/

namespace OmniTun.Protocol

open OmniTun.Foundation OmniTun.Foundation.Transport

def magicValue : ℕ := 0x4F54
def frameVersion : UInt8 := 0x01

def frameTypeData : UInt8 := 0x00
def frameTypeControl : UInt8 := 0x01
def frameTypePing : UInt8 := 0x02
def frameTypeError : UInt8 := 0x03

def controlTunnelConnect : UInt8 := 0x01
def controlTunnelConnectAck : UInt8 := 0x02
def controlTunnelClose : UInt8 := 0x03

def errorUnknown : UInt8 := 0x00
def errorAuthFailed : UInt8 := 0x01
def errorStreamClosed : UInt8 := 0x03

def flagCompressed : UInt8 := 0x01
def flagEOF : UInt8 := 0x02

def headerSize : ℕ := 17
def maxPayload : ℕ := 64 * 1024

structure Frame where
  version : UInt8
  type : UInt8
  flags : UInt8
  streamID : UInt64
  payload : Bytes
  deriving DecidableEq, Repr

inductive FrameError
  | payloadTooLarge (length : ℕ)
  | writeHeader (err : TransportError)
  | writePayload (err : TransportError)
  | readHeader (err : TransportError)
  | invalidMagic
  | unsupportedVersion (got : UInt8)
  | payloadLengthMismatch (length : ℕ)
  | readPayload (err : TransportError)
  deriving DecidableEq, Repr

namespace Frame

def header (f : Frame) : Bytes :=
  BigEndian.put 2 magicValue ++ [f.version, f.type, f.flags] ++
    BigEndian.put 8 f.streamID.toNat ++ BigEndian.put 4 f.payload.length

def isCompressed (f : Frame) : Bool := f.flags &&& flagCompressed != 0

def isEOF (f : Frame) : Bool := f.flags &&& flagEOF != 0

def controlSubType (f : Frame) : UInt8 :=
  if f.type ≠ frameTypeControl ∧ f.type ≠ frameTypeError then 0
  else f.payload.headD 0

def errorMessage (f : Frame) : Bytes :=
  if f.type ≠ frameTypeError ∨ f.payload.length ≤ 1 then [] else f.payload.drop 1

def setEOF (f : Frame) : Frame := { f with flags := f.flags ||| flagEOF }

@[simp] lemma setEOF_type (f : Frame) : f.setEOF.type = f.type := rfl

@[simp] lemma setEOF_payload (f : Frame) : f.setEOF.payload = f.payload := rfl

@[simp] lemma setEOF_isCompressed (f : Frame) : f.setEOF.isCompressed = f.isCompressed := by
  have h : (f.flags ||| flagEOF) &&& flagCompressed = f.flags &&& flagCompressed := by
    apply UInt8.toBitVec_inj.mp
    rw [UInt8.toBitVec_and, UInt8.toBitVec_or, BitVec.and_or_distrib_right, UInt8.toBitVec_and]
    exact BitVec.or_zero
  simp only [setEOF, isCompressed, h]

end Frame

def newDataFrame (streamID : UInt64) (payload : Bytes) (compressed : Bool) : Frame :=
  let f : Frame := ⟨frameVersion, frameTypeData, 0, streamID, payload⟩
  if compressed then { f with flags := f.flags ||| flagCompressed } else f

section DataFrame

variable (streamID : UInt64) (payload : Bytes) (compressed : Bool)

@[simp] lemma newDataFrame_version :
    (newDataFrame streamID payload compressed).version = frameVersion := by
  cases compressed <;> rfl

@[simp] lemma newDataFrame_type :
    (newDataFrame streamID payload compressed).type = frameTypeData := by
  cases compressed <;> rfl

@[simp] lemma newDataFrame_payload : (newDataFrame streamID payload compressed).payload = payload := by
  cases compressed <;> rfl

lemma newDataFrame_flags :
    (newDataFrame streamID payload compressed).flags = if compressed then flagCompressed else 0 := by
  cases compressed <;> simp [newDataFrame]

@[simp] lemma newDataFrame_isCompressed :
    (newDataFrame streamID payload compressed).isCompressed = compressed := by
  rw [Frame.isCompressed, newDataFrame_flags]
  cases compressed <;> decide

@[simp] lemma newDataFrame_isEOF : (newDataFrame streamID payload compressed).isEOF = false := by
  rw [Frame.isEOF, newDataFrame_flags]
  cases compressed <;> decide

end DataFrame

def newControlFrame (subType : UInt8) (streamID : UInt64) : Frame :=
  ⟨frameVersion, frameTypeControl, 0, streamID, [subType]⟩

def newPingFrame (streamID : UInt64) : Frame :=
  ⟨frameVersion, frameTypePing, 0, streamID, []⟩

def newErrorFrame (subType : UInt8) (message : Bytes) : Frame :=
  ⟨frameVersion, frameTypeError, 0, 0, subType :: message⟩

def encodeFrame {ω : Type*} [Writer ω] (w : ω) (f : Frame) : Option FrameError × ω :=
  if maxPayload < f.payload.length then (some (.payloadTooLarge f.payload.length), w)
  else
    match write w f.header with
    | (some err, w) => (some (.writeHeader err), w)
    | (none, w) =>
      -- an empty payload is not written
      if 0 < f.payload.length then
        match write w f.payload with
        | (some err, w) => (some (.writePayload err), w)
        | (none, w) => (none, w)
      else (none, w)

def parseHeader (header : Bytes) : Except FrameError (Frame × ℕ) :=
  let version := header.getD 2 0
  let payloadLen := BigEndian.get ((header.drop 13).take 4)
  if BigEndian.get (header.take 2) ≠ magicValue then .error .invalidMagic
  else if version ≠ frameVersion then .error (.unsupportedVersion version)
  else if maxPayload < payloadLen then .error (.payloadLengthMismatch payloadLen)
  else .ok (⟨version, header.getD 3 0, header.getD 4 0,
    UInt64.ofNat (BigEndian.get ((header.drop 5).take 8)), []⟩, payloadLen)

def decodeFrame {ρ : Type*} [Reader ρ] (r : ρ) : Except FrameError Frame × ρ :=
  match readFull r headerSize with
  | (.error err, r) => (.error (.readHeader err), r)
  | (.ok header, r) =>
    match parseHeader header with
    | .error err => (.error err, r)
    | .ok (f, payloadLen) =>
      if 0 < payloadLen then
        match readFull r payloadLen with
        | (.error err, r) => (.error (.readPayload err), r)
        | (.ok payload, r) => (.ok { f with payload := payload }, r)
      else (.ok f, r)

def decodeStream {ρ : Type*} [Reader ρ] : ℕ → ρ → List (Except FrameError Frame) × ρ
  | 0, r => ([], r)
  | n + 1, r =>
    match decodeFrame r with
    | (.error err, r) => ([.error err], r)
    | (.ok f, r) => (.ok f :: (decodeStream n r).1, (decodeStream n r).2)

end OmniTun.Protocol
