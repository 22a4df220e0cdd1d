import OmniTun.Control.TunnelConnection
import OmniTun.Foundation.Transition
import OmniTun.Relay.Proxy

/-! Requests on their way from the relay's clients to the agent's local service. -/

namespace OmniTun.DataPath

open OmniTun.Foundation OmniTun.Foundation.Transport OmniTun.Foundation.Transition
open OmniTun.Protocol OmniTun.Relay OmniTun.Control

section Forward

variable (codec : Codec) (streamID : UInt64)

/-- The forward half of `handleHTTP`, where it succeeds. Every request has a range order of its own. -/
def forward (sm : StreamMultiplexer Duplex) (r : Table.RangeOrder Bytes × Request) :
    Option (StreamMultiplexer Duplex) :=
  match requestFrame codec r.1 streamID r.2 with
  | .error _ => none
  | .ok frame =>
    match sm.forwardFrame streamID frame with
    | (some _, _) => none
    | (none, sm) => some sm

def payload (r : Table.RangeOrder Bytes × Request) : Bytes :=
  (codec.compressPayload (serialized r.1 r.2)).getD []

end Forward

variable {codec : Codec} {streamID : UInt64} {sm sm' : StreamMultiplexer Duplex}
  {sc : StreamConnection Duplex} {r : Table.RangeOrder Bytes × Request}
  {rs : List (Table.RangeOrder Bytes × Request)}

lemma handleHTTP_of_forward (h : forward codec streamID sm r = some sm') :
    handleHTTP codec r.1 sm streamID r.2 =
      (respond codec (sm'.receive streamID).1, (sm'.receive streamID).2) := by
  cases hframe : requestFrame codec r.1 streamID r.2 with
  | error call => simp [forward, hframe] at h
  | ok frame =>
    rcases hf : sm.forwardFrame streamID frame with ⟨_ | err, sm₁⟩
    · obtain rfl : sm₁ = sm' := by simpa [forward, hframe, hf] using h
      simp only [handleHTTP, hframe, hf]
    · simp [forward, hframe, hf] at h

lemma forward_ok (hsc : sm.activeStreams.lookup streamID = some sc)
    (h : forward codec streamID sm r = some sm') :
    codec.compressPayload (serialized r.1 r.2) = some (payload codec r) ∧
    (newDataFrame streamID (payload codec r) true).Wire ∧ sc.conn.closed = false ∧
    sm' = sm.withConn streamID sc
      (sc.conn.sent (newDataFrame streamID (payload codec r) true).wireBytes) := by
  simp only [forward] at h
  split at h
  · cases h
  next frame hframe =>
    obtain ⟨p, hp, rfl⟩ := requestFrame_ok hframe
    have hpay : payload codec r = p := by rw [payload, hp, Option.getD_some]
    split at h
    · cases h
    next sm'' hf =>
      obtain rfl := Option.some.inj h
      obtain ⟨hc, hl, hsm⟩ := StreamMultiplexer.forwardFrame_ok hsc hf
      rw [hpay]
      exact ⟨hp, newDataFrame_wire hl, hc, hsm⟩

def frames (codec : Codec) (streamID : UInt64) (rs : List (Table.RangeOrder Bytes × Request)) :
    List Frame :=
  rs.map fun r => newDataFrame streamID (payload codec r) true

lemma run_forward (hsc : sm.activeStreams.lookup streamID = some sc)
    (h : run (forward codec streamID) sm rs = some sm') :
    (∀ f ∈ frames codec streamID rs, f.Wire ∧ f.type ≠ frameTypeControl ∧ f.isEOF = false) ∧
    (∀ r ∈ rs, codec.compressPayload (serialized r.1 r.2) = some (payload codec r)) ∧
    sm'.activeStreams.lookup streamID =
      some { sc with conn := sc.conn.sent ((frames codec streamID rs).flatMap Frame.wireBytes) } := by
  induction rs generalizing sm sc with
  | nil =>
    obtain rfl := Option.some.inj h
    simp [frames, hsc]
  | cons r rs ih =>
    obtain ⟨sm₁, h₁, h₂⟩ := Option.bind_eq_some_iff.mp h
    obtain ⟨hp, hw, hc, rfl⟩ := forward_ok hsc h₁
    obtain ⟨hframes, hpayloads, hlookup⟩ := ih (StreamMultiplexer.lookup_withConn _ _ _ _) h₂
    refine ⟨?_, ?_, ?_⟩
    · intro f hf
      rcases List.mem_cons.mp hf with rfl | hf
      · exact ⟨hw, by simp [frameTypeData, frameTypeControl], by simp⟩
      · exact hframes f hf
    · intro r' hr'
      rcases List.mem_cons.mp hr' with rfl | hr'
      · exact hp
      · exact hpayloads r' hr'
    · rw [hlookup]
      simp [frames]

lemma compressed_head (hmagic : codec.Magic)
    (hp : codec.compressPayload (serialized r.1 r.2) = some (payload codec r)) :
    (payload codec r).head? = some 0x28 := by
  obtain ⟨c, hc, _⟩ := serialized_head r.1 r.2
  have hne : serialized r.1 r.2 ≠ [] := by
    intro h
    rw [h] at hc
    cases hc
  rw [Codec.compressPayload, if_neg (by simpa using hne)] at hp
  obtain ⟨rest, hrest⟩ := hmagic _ _ hne hp
  rw [← hrest]
  rfl

lemma payloads_ne (hmagic : codec.Magic)
    (h : ∀ r ∈ rs, codec.compressPayload (serialized r.1 r.2) = some (payload codec r))
    (hne : rs ≠ []) :
    rs.flatMap (payload codec) ≠ rs.flatMap fun r => serialized r.1 r.2 := by
  -- the one starts with the magic number of the codec, the other with a request method
  obtain ⟨r, rs, rfl⟩ := List.exists_cons_of_ne_nil hne
  have hhead := compressed_head hmagic (h r List.mem_cons_self)
  obtain ⟨c, hc, htoken⟩ := serialized_head r.1 r.2
  obtain ⟨p, hp⟩ := List.head?_eq_some_iff.mp hhead
  obtain ⟨s, hs⟩ := List.head?_eq_some_iff.mp hc
  intro he
  rw [List.flatMap_cons, List.flatMap_cons, hp, hs] at he
  obtain rfl : 0x28 = c := (List.cons.inj he).1
  revert htoken
  decide

section Agent

variable {σ : Type*} [MessageConn σ] {tc : TunnelConnection Duplex σ} {conn : Duplex}

lemma local_bytes (hsc : sm.activeStreams.lookup streamID = some sc)
    (h : run (forward codec streamID) sm rs = some sm') {sc' : StreamConnection Duplex}
    (hsc' : sm'.activeStreams.lookup streamID = some sc') (hq : tc.quicConn = some conn)
    (hc : conn.closed = false) (hin : sc'.conn.outbound = sc.conn.outbound ++ conn.inbound)
    {n : ℕ} (hn : rs.length ≤ n) (localConn : Bytes) :
    (tc.forwardRemoteToLocal n localConn).2 = localConn ++ rs.flatMap (payload codec) := by
  obtain ⟨hframes, _, hlookup⟩ := run_forward hsc h
  rw [hsc'] at hlookup
  obtain rfl := Option.some.inj hlookup
  have hin' := List.append_cancel_left hin
  rw [TunnelConnection.forwardRemoteToLocal_frames hframes hq hc hin'.symm
    (by simpa [frames] using hn)]
  simp [frames, List.flatMap_map]

/-- What the local service reads is the serialised requests only where there is none: the agent does
not decompress. -/
theorem requests_delivered_iff (hmagic : codec.Magic)
    (hsc : sm.activeStreams.lookup streamID = some sc)
    (h : run (forward codec streamID) sm rs = some sm') {sc' : StreamConnection Duplex}
    (hsc' : sm'.activeStreams.lookup streamID = some sc') (hq : tc.quicConn = some conn)
    (hc : conn.closed = false) (hin : sc'.conn.outbound = sc.conn.outbound ++ conn.inbound)
    {n : ℕ} (hn : rs.length ≤ n) (localConn : Bytes) :
    (tc.forwardRemoteToLocal n localConn).2 =
      localConn ++ rs.flatMap (fun r => serialized r.1 r.2) ↔ rs = [] := by
  rw [local_bytes hsc h hsc' hq hc hin hn]
  constructor
  · intro he
    by_contra hne
    exact payloads_ne hmagic (run_forward hsc h).2.1 hne (List.append_cancel_left he)
  · rintro rfl
    rfl

end Agent

/-! A relay with one open stream, and its agent. -/

def exampleConn (inbound : Bytes) : Duplex := ⟨inbound, [], false⟩

def exampleMux (inbound : Bytes) : StreamMultiplexer Duplex :=
  ((newStreamMultiplexer Duplex).newStream (ascii "T") (exampleConn inbound)).2

def exampleRequest : Table.RangeOrder Bytes × Request := (.byCode, getRequest (ascii "h"))

def exampleAgent (inbound : Bytes) : TunnelConnection Duplex (List Frame) :=
  ⟨ascii "T", [], some (exampleConn inbound), none⟩

lemma payload_exampleRequest :
    payload Codec.framing exampleRequest = Codec.magic ++ serialized .byCode (getRequest (ascii "h")) := by
  rw [payload, exampleRequest, compressPayload_framing _ (by decide), Option.getD_some]

def exampleFrame : Frame := newDataFrame 1 (payload Codec.framing exampleRequest) true

def exampleSent (inbound : Bytes) : StreamMultiplexer Duplex :=
  (exampleMux inbound).withConn 1 ⟨1, ascii "T", exampleConn inbound⟩
    ((exampleConn inbound).sent exampleFrame.wireBytes)

lemma lookup_exampleMux (inbound : Bytes) : (exampleMux inbound).activeStreams.lookup 1 =
    some ⟨1, ascii "T", exampleConn inbound⟩ :=
  Finmap.lookup_insert _

lemma exampleFrame_length : exampleFrame.payload.length ≤ maxPayload := by
  rw [exampleFrame, newDataFrame_payload, payload_exampleRequest, List.length_append,
    serialized_getRequest_length _ (by decide)]
  decide

lemma requestFrame_exampleRequest :
    requestFrame Codec.framing exampleRequest.1 1 exampleRequest.2 = .ok exampleFrame := by
  rw [exampleRequest, requestFrame_framing _ _ (by decide), exampleFrame, payload_exampleRequest]

lemma forwardFrame_exampleFrame (inbound : Bytes) :
    (exampleMux inbound).forwardFrame 1 exampleFrame = (none, exampleSent inbound) :=
  StreamMultiplexer.forwardFrame_duplex (lookup_exampleMux inbound) rfl exampleFrame_length

lemma forward_exampleRequest (inbound : Bytes) :
    forward Codec.framing 1 (exampleMux inbound) exampleRequest = some (exampleSent inbound) := by
  simp only [forward, requestFrame_exampleRequest, forwardFrame_exampleFrame]

lemma run_exampleRequest :
    run (forward Codec.framing 1) (exampleMux []) [exampleRequest] = some (exampleSent []) := by
  simp only [run_cons, run_nil, forward_exampleRequest, Option.bind_some]

theorem requests_delivered_example :
    ¬ ((exampleAgent exampleFrame.wireBytes).forwardRemoteToLocal 1 ([] : Bytes)).2 =
      [] ++ [exampleRequest].flatMap (fun r => serialized r.1 r.2) := by
  intro h
  have hnil := (requests_delivered_iff Codec.framing_magic (lookup_exampleMux []) run_exampleRequest
    (StreamMultiplexer.lookup_withConn _ _ _ _) rfl rfl (by rfl) le_rfl []).mp h
  cases hnil

theorem requests_delivered_fails :
    Codec.framing.RoundTrip ∧
    run (forward Codec.framing 1) (exampleMux []) [exampleRequest] = some (exampleSent []) ∧
    ∀ n, 1 ≤ n → ((exampleAgent exampleFrame.wireBytes).forwardRemoteToLocal n ([] : Bytes)).2 ≠
      serialized exampleRequest.1 exampleRequest.2 := by
  refine ⟨Codec.framing_roundTrip, run_exampleRequest, fun n hn => ?_⟩
  rw [local_bytes (lookup_exampleMux []) run_exampleRequest
    (StreamMultiplexer.lookup_withConn _ _ _ _) rfl rfl (by rfl) hn]
  have hne := payloads_ne Codec.framing_magic
    (run_forward (lookup_exampleMux []) run_exampleRequest).2.1
    (List.cons_ne_nil _ _)
  simpa using hne

end OmniTun.DataPath
