import OmniTun.Relay.HttpMessage
import OmniTun.Relay.Stream

/-! The reverse proxy's way of an HTTP request to the agent and of the response back. -/

namespace OmniTun.Relay

open OmniTun.Foundation OmniTun.Foundation.Transport OmniTun.Protocol

structure Codec where
  encode : Bytes → Option Bytes
  decode : Bytes → Option Bytes

namespace Codec

def compressPayload (codec : Codec) (payload : Bytes) : Option Bytes :=
  if payload.length = 0 then some [] else codec.encode payload

def decompressPayload (codec : Codec) (payload : Bytes) : Option Bytes :=
  if payload.length = 0 then some [] else codec.decode payload

def framePayload (codec : Codec) (f : Frame) : Option Bytes :=
  if f.isCompressed then codec.decompressPayload f.payload else some f.payload

def RoundTrip (codec : Codec) : Prop :=
  ∀ p out, codec.compressPayload p = some out → codec.decompressPayload out = some p

def magic : Bytes := [0x28, 0xB5, 0x2F, 0xFD]

def Magic (codec : Codec) : Prop :=
  ∀ p out, p ≠ [] → codec.encode p = some out → magic <+: out

def framing : Codec where
  encode p := some (magic ++ p)
  decode p := if magic <+: p then some (p.drop 4) else none

lemma framing_magic : framing.Magic := by
  intro p out _ h
  obtain rfl := Option.some.inj h
  exact List.prefix_append magic p

lemma framing_roundTrip : framing.RoundTrip := by
  intro p out h
  cases p with
  | nil =>
    obtain rfl := Option.some.inj h
    rfl
  | cons c p =>
    obtain rfl := Option.some.inj h
    simp [decompressPayload, framing, magic]

lemma compressPayload_framing {p : Bytes} (h : 0 < p.length) :
    framing.compressPayload p = some (magic ++ p) :=
  if_neg h.ne'

end Codec

def internalServerError : WriterCall := .error (ascii "500 Internal Server Error") 500
def agentUnreachable : WriterCall := .error (ascii "502 Bad Gateway: agent unreachable") 502
def agentResponseError : WriterCall := .error (ascii "502 Bad Gateway: agent response error") 502
def badGateway : WriterCall := .error (ascii "502 Bad Gateway") 502

variable (codec : Codec) (order : Table.RangeOrder Bytes)

def requestFrame (streamID : UInt64) (r : Request) : Except WriterCall Frame :=
  match r.body with
  | none => .error internalServerError
  | some body =>
    match codec.compressPayload (serializeHTTPRequest order r body) with
    | none => .error internalServerError
    | some compressedPayload => .ok (newDataFrame streamID compressedPayload true)

def deliver (respPayload : Bytes) : List WriterCall :=
  match deserializeHTTPResponse respPayload with
  -- the error is only logged
  | .error _ => []
  | .ok calls => calls

def respond : Except StreamError Frame → List WriterCall
  | .error _ => [agentResponseError]
  | .ok respFrame =>
    if respFrame.type = frameTypeError then [badGateway]
    else
      match codec.framePayload respFrame with
      | none => [internalServerError]
      | some respPayload => deliver respPayload

def handleHTTP {κ : Type*} [Reader κ] [Writer κ] (sm : StreamMultiplexer κ) (streamID : UInt64)
    (r : Request) : List WriterCall × StreamMultiplexer κ :=
  match requestFrame codec order streamID r with
  | .error call => ([call], sm)
  | .ok frame =>
    match sm.forwardFrame streamID frame with
    | (some _, sm) => ([agentUnreachable], sm)
    | (none, sm) =>
      let (res, sm) := sm.receive streamID
      (respond codec res, sm)

def serialized (r : Request) : Bytes := serializeHTTPRequest order r (r.body.getD [])

lemma requestFrame_eq {codec : Codec} {order : Table.RangeOrder Bytes} {streamID : UInt64}
    {r : Request} {body : Bytes} (h : r.body = some body) :
    requestFrame codec order streamID r =
      match codec.compressPayload (serialized order r) with
      | none => .error internalServerError
      | some payload => .ok (newDataFrame streamID payload true) := by
  simp only [requestFrame, serialized, h, Option.getD_some]

lemma requestFrame_ok {codec : Codec} {order : Table.RangeOrder Bytes} {streamID : UInt64}
    {r : Request} {f : Frame} (h : requestFrame codec order streamID r = .ok f) :
    ∃ payload, codec.compressPayload (serialized order r) = some payload ∧
      f = newDataFrame streamID payload true := by
  simp only [requestFrame] at h
  split at h
  · cases h
  next body hb =>
    split at h
    · cases h
    next payload hp =>
      cases h
      exact ⟨payload, by rw [serialized, hb]; exact hp, rfl⟩

lemma serialized_getRequest_length {host : Bytes} (h : host ≠ []) :
    (serialized order (getRequest host)).length = 26 + host.length := by
  have hs : serialized order (getRequest host) = serializeHTTPRequest order (getRequest host) [] := rfl
  rw [hs, serialize_getRequest order h]
  simp [ascii, crlf, headerLine]
  omega

lemma compressPayload_framing {host : Bytes} (h : host ≠ []) :
    Codec.framing.compressPayload (serialized order (getRequest host)) =
      some (Codec.magic ++ serialized order (getRequest host)) := by
  apply Codec.compressPayload_framing
  rw [serialized_getRequest_length order h]
  omega

lemma requestFrame_framing (streamID : UInt64) {host : Bytes} (h : host ≠ []) :
    requestFrame Codec.framing order streamID (getRequest host) =
      .ok (newDataFrame streamID (Codec.magic ++ serialized order (getRequest host)) true) := by
  have hp := compressPayload_framing order h
  have hb : (getRequest host).body = some [] := rfl
  simp only [requestFrame_eq hb, hp]

lemma serialized_head (r : Request) :
    ∃ c, (serialized order r).head? = some c ∧ isTokenByte c = true := by
  obtain ⟨hne, htoken⟩ := r.method_token
  obtain ⟨c, rest, hm⟩ := List.exists_cons_of_ne_nil hne
  refine ⟨c, ?_, htoken c (by simp [hm])⟩
  simp only [serialized, serializeHTTPRequest, encodeHTTPRequest, hm, List.cons_append,
    List.head?_cons]

end OmniTun.Relay
