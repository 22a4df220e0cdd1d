import Mathlib.Data.Set.Finite.List
import OmniTun.DataPath.Requests

/-! Requests by size: a request is one frame, whose limit is on what the request compresses to. -/

namespace OmniTun.DataPath

open OmniTun.Foundation OmniTun.Foundation.Transport
open OmniTun.Protocol OmniTun.Relay

def outboundOf (sm : StreamMultiplexer Duplex) (streamID : UInt64) : Option Bytes :=
  (sm.activeStreams.lookup streamID).map fun sc => sc.conn.outbound

/-- Frames within the limit that carry `request` between them are written, and the agent is not
reported unreachable. -/
def Transmitted (codec : Codec) (before request : Bytes) (after : Option Bytes)
    (calls : List WriterCall) : Prop :=
  (∃ fs payloads, fs ≠ [] ∧ (∀ f ∈ fs, f.payload.length ≤ maxPayload) ∧
    after = some (before ++ fs.flatMap Frame.wireBytes) ∧
    fs.mapM codec.framePayload = some payloads ∧ payloads.flatten = request) ∧
  agentUnreachable ∉ calls

variable {codec : Codec} {order : Table.RangeOrder Bytes} {streamID : UInt64}
  {sm : StreamMultiplexer Duplex} {sc : StreamConnection Duplex} {r : Request} {payload : Bytes}

lemma unreachable_not_mem_deliver (respPayload : Bytes) :
    agentUnreachable ∉ deliver respPayload := by
  rw [deliver, deserializeHTTPResponse]
  split
  · simp
  next calls h =>
    split at h
    · cases h
    · split at h
      · cases h
      · obtain rfl := Except.ok.inj h
        split_ifs <;> simp [agentUnreachable]

lemma unreachable_not_mem_respond (res : Except StreamError Frame) :
    agentUnreachable ∉ respond codec res := by
  cases res with
  | error err => simp [respond, agentUnreachable, agentResponseError, ascii]
  | ok f =>
    rw [respond]
    split_ifs
    · simp [agentUnreachable, badGateway, ascii]
    · split
      · simp [agentUnreachable, internalServerError, ascii]
      · exact unreachable_not_mem_deliver _

lemma requestFrame_payload {body : Bytes} (hbody : r.body = some body)
    (hp : codec.compressPayload (serialized order r) = some payload) :
    requestFrame codec order streamID r = .ok (newDataFrame streamID payload true) := by
  simp only [requestFrame_eq hbody, hp]

lemma handleHTTP_fits {body : Bytes} (hsc : sm.activeStreams.lookup streamID = some sc)
    (hc : sc.conn.closed = false) (hbody : r.body = some body)
    (hp : codec.compressPayload (serialized order r) = some payload)
    (hlen : payload.length ≤ maxPayload) :
    outboundOf (handleHTTP codec order sm streamID r).2 streamID =
        some (sc.conn.outbound ++ (newDataFrame streamID payload true).wireBytes) ∧
      agentUnreachable ∉ (handleHTTP codec order sm streamID r).1 := by
  have hforward : sm.forwardFrame streamID (newDataFrame streamID payload true) =
      (none, sm.withConn streamID sc
        (sc.conn.sent (newDataFrame streamID payload true).wireBytes)) :=
    StreamMultiplexer.forwardFrame_duplex hsc hc (by rwa [newDataFrame_payload])
  have hsc' := StreamMultiplexer.lookup_withConn sm streamID sc
    (sc.conn.sent (newDataFrame streamID payload true).wireBytes)
  simp only [handleHTTP, requestFrame_payload hbody hp, hforward,
    StreamMultiplexer.receive_duplex hsc' hc]
  refine ⟨?_, unreachable_not_mem_respond _⟩
  rw [outboundOf, StreamMultiplexer.lookup_withConn]
  rfl

lemma handleHTTP_tooLarge {body : Bytes} (hsc : sm.activeStreams.lookup streamID = some sc)
    (hbody : r.body = some body)
    (hp : codec.compressPayload (serialized order r) = some payload)
    (hlen : maxPayload < payload.length) :
    outboundOf (handleHTTP codec order sm streamID r).2 streamID = some sc.conn.outbound ∧
      (handleHTTP codec order sm streamID r).1 = [agentUnreachable] := by
  have hforward := StreamMultiplexer.forwardFrame_tooLarge (f := newDataFrame streamID payload true)
    hsc (by rwa [newDataFrame_payload])
  simp only [handleHTTP, requestFrame_payload hbody hp, hforward]
  refine ⟨?_, trivial⟩
  rw [outboundOf, StreamMultiplexer.lookup_withConn]
  rfl

/-- A request of an active stream is transmitted if and only if it compresses to the payload of one
frame. -/
theorem request_transmitted_iff {body : Bytes} (hcodec : codec.RoundTrip)
    (hsc : sm.activeStreams.lookup streamID = some sc) (hc : sc.conn.closed = false)
    (hbody : r.body = some body)
    (hp : codec.compressPayload (serialized order r) = some payload) :
    Transmitted codec sc.conn.outbound (serialized order r)
        (outboundOf (handleHTTP codec order sm streamID r).2 streamID)
        (handleHTTP codec order sm streamID r).1 ↔
      payload.length ≤ maxPayload := by
  constructor
  · rintro ⟨⟨fs, payloads, hfs, -, hafter, -⟩, -⟩
    by_contra hlen
    have htoo : maxPayload < payload.length := by omega
    obtain ⟨hout, -⟩ := handleHTTP_tooLarge hsc hbody hp htoo
    have hwritten := List.self_eq_append_right.mp (Option.some.inj (hout.symm.trans hafter))
    exact hfs (flatMap_wireBytes_eq_nil.mp hwritten)
  · intro hlen
    obtain ⟨hout, hreach⟩ := handleHTTP_fits hsc hc hbody hp hlen
    have hframe : codec.framePayload (newDataFrame streamID payload true) =
        some (serialized order r) := by
      rw [Codec.framePayload, newDataFrame_isCompressed, if_pos rfl, newDataFrame_payload]
      exact hcodec _ _ hp
    refine ⟨⟨[newDataFrame streamID payload true], [serialized order r], by simp, ?_, ?_, ?_, ?_⟩,
      hreach⟩
    · simpa using hlen
    · simpa using hout
    · simp [hframe]
    · simp

theorem request_transmitted_example :
    Transmitted Codec.framing [] (serialized .byCode (getRequest (ascii "h")))
        (outboundOf (handleHTTP Codec.framing .byCode (exampleMux []) 1
          (getRequest (ascii "h"))).2 1)
        (handleHTTP Codec.framing .byCode (exampleMux []) 1 (getRequest (ascii "h"))).1 ↔
      (Codec.magic ++ serialized .byCode (getRequest (ascii "h"))).length ≤ maxPayload :=
  request_transmitted_iff Codec.framing_roundTrip (lookup_exampleMux []) rfl rfl
    (compressPayload_framing _ (by decide))

/-! Whatever the codec, there are requests that do not fit. -/

lemma body_le_serialized {body : Bytes} (hbody : r.body = some body) :
    body.length ≤ (serialized order r).length := by
  rw [serialized, hbody, Option.getD_some, serializeHTTPRequest, encodeHTTPRequest,
    List.length_append]
  exact Nat.le_add_left _ _

/-- One frame tells finitely many requests apart, so that no body over some length fits. -/
theorem body_bound (hcodec : codec.RoundTrip) :
    ∃ n : ℕ, ∀ (order : Table.RangeOrder Bytes) (r : Request) (body payload : Bytes),
      r.body = some body → n < body.length →
        codec.compressPayload (serialized order r) = some payload →
          maxPayload < payload.length := by
  have : Finite UInt8 := Finite.of_injective UInt8.toFin fun _ _ => UInt8.toFin_inj.mp
  have hfinite : ((fun out : Bytes => ((codec.decompressPayload out).getD []).length) ''
      {out | out.length ≤ maxPayload}).Finite :=
    (List.finite_length_le UInt8 maxPayload).image _
  obtain ⟨n, hn⟩ := hfinite.bddAbove
  refine ⟨n, fun order r body payload hbody hlen hp => ?_⟩
  by_contra hfit
  have hdecoded : (serialized order r).length ≤ n := by
    have hle := hn (Set.mem_image_of_mem _ (show payload ∈ {out : Bytes | out.length ≤ maxPayload}
      from not_lt.mp hfit))
    simpa [hcodec _ _ hp] using hle
  have hbody' : body.length ≤ (serialized order r).length := body_le_serialized hbody
  omega

def largeBody : Bytes := (List.range (64 * 1024)).map fun i => UInt8.ofNat (i ^ 3 * 40503 / 2 ^ 16)

def largeRequest : Request :=
  { getRequest (ascii "h") with
    method := ascii "POST"
    body := some largeBody
    method_token := ⟨by decide, List.all_eq_true.mp rfl⟩ }

theorem request_transmitted_largeRequest :
    (exampleMux []).activeStreams.lookup 1 = some ⟨1, ascii "T", exampleConn []⟩ ∧
    (exampleConn []).closed = false ∧
    ¬ Transmitted Codec.framing [] (serialized .byCode largeRequest)
      (outboundOf (handleHTTP Codec.framing .byCode (exampleMux []) 1 largeRequest).2 1)
      (handleHTTP Codec.framing .byCode (exampleMux []) 1 largeRequest).1 := by
  have hbody : largeRequest.body = some largeBody := rfl
  have hlen : largeBody.length ≤ (serialized .byCode largeRequest).length :=
    body_le_serialized hbody
  have hlarge : largeBody.length = 64 * 1024 := by
    rw [largeBody, List.length_map, List.length_range]
  rw [hlarge] at hlen
  have hp : Codec.framing.compressPayload (serialized .byCode largeRequest) =
      some (Codec.magic ++ serialized .byCode largeRequest) := by
    apply Codec.compressPayload_framing
    omega
  have htoo : ∀ bs : Bytes, 64 * 1024 ≤ bs.length → maxPayload < (Codec.magic ++ bs).length := by
    intro bs hbs
    rw [List.length_append, maxPayload, Codec.magic]
    simp only [List.length_cons, List.length_nil]
    omega
  obtain ⟨-, hcalls⟩ := handleHTTP_tooLarge (lookup_exampleMux []) hbody hp (htoo _ hlen)
  refine ⟨lookup_exampleMux [], rfl, ?_⟩
  rintro ⟨-, hreach⟩
  rw [hcalls] at hreach
  exact hreach List.mem_cons_self

end OmniTun.DataPath
