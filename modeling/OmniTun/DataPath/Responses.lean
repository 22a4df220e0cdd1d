import OmniTun.DataPath.Requests

/-! Responses on their way from the agent's local service to the relay's clients. -/

namespace OmniTun.DataPath

open OmniTun.Foundation OmniTun.Foundation.Transport
open OmniTun.Protocol OmniTun.Relay OmniTun.Control

def body (chunks : List Chunk) : Bytes := chunks.flatMap Subtype.val

def unread (sm : StreamMultiplexer Duplex) (streamID : UInt64) : Option Bytes :=
  (sm.activeStreams.lookup streamID).map fun sc => sc.conn.inbound

variable {codec : Codec} {streamID counter : UInt64} {sm sm' : StreamMultiplexer Duplex}
  {sc : StreamConnection Duplex} {r : Table.RangeOrder Bytes × Request} {chunks : List Chunk}
  {chunk : Chunk} {err : Option TransportError} {rest : Bytes}

lemma respond_chunk : respond codec (.ok (newDataFrame counter chunk.val false)) = deliver chunk.val := by
  simp [respond, Codec.framePayload, frameTypeData, frameTypeError]

lemma handleHTTP_frame {f : Frame} (hsc : sm.activeStreams.lookup streamID = some sc)
    (h : forward codec streamID sm r = some sm') (hf : f.Wire)
    (hin : sc.conn.inbound = f.wireBytes ++ rest) :
    (handleHTTP codec r.1 sm streamID r.2).1 = respond codec (.ok f) ∧
    unread (handleHTTP codec r.1 sm streamID r.2).2 streamID = some rest := by
  obtain ⟨_, _, hc, rfl⟩ := forward_ok hsc h
  let conn := sc.conn.sent (newDataFrame streamID (payload codec r) true).wireBytes
  have hin' : conn.inbound = f.wireBytes ++ rest := hin
  have hsc' := StreamMultiplexer.lookup_withConn sm streamID sc conn
  rw [handleHTTP_of_forward h, StreamMultiplexer.receive_wireBytes hsc' hc hf hin']
  refine ⟨rfl, ?_⟩
  simp [unread, StreamMultiplexer.lookup_withConn]

lemma handleHTTP_cons (hsc : sm.activeStreams.lookup streamID = some sc)
    (h : forward codec streamID sm r = some sm')
    (hin : sc.conn.inbound =
      (localFrames counter (chunk :: chunks) err).flatMap Frame.wireBytes ++ rest) :
    (handleHTTP codec r.1 sm streamID r.2).1 = deliver chunk.val ∧
    unread (handleHTTP codec r.1 sm streamID r.2).2 streamID =
      some ((localFrames (counter + 1) chunks err).flatMap Frame.wireBytes ++ rest) := by
  have hin' : sc.conn.inbound = (newDataFrame counter chunk.val false).wireBytes ++
      ((localFrames (counter + 1) chunks err).flatMap Frame.wireBytes ++ rest) := by
    rw [hin]
    simp [localFrames]
  obtain ⟨hcalls, hunread⟩ := handleHTTP_frame hsc h (chunk_wire counter chunk) hin'
  exact ⟨hcalls.trans respond_chunk, hunread⟩

lemma handleHTTP_nil (hsc : sm.activeStreams.lookup streamID = some sc)
    (h : forward codec streamID sm r = some sm') :
    ¬ ((handleHTTP codec r.1 sm streamID r.2).1 = deliver [] ∧
      unread (handleHTTP codec r.1 sm streamID r.2).2 streamID = some sc.conn.inbound) := by
  obtain ⟨_, _, hc, rfl⟩ := forward_ok hsc h
  let conn := sc.conn.sent (newDataFrame streamID (payload codec r) true).wireBytes
  have hsc' := StreamMultiplexer.lookup_withConn sm streamID sc conn
  rw [handleHTTP_of_forward h, StreamMultiplexer.receive_duplex hsc' hc]
  rintro ⟨hcalls, hunread⟩
  -- what is there to be read belongs to no response of this handler
  rcases hd : decodeFrame conn.inbound with ⟨err | f, rest⟩
  · simp only [hd] at hcalls
    cases hcalls
  · obtain ⟨_, hf⟩ := decodeFrame_sound hd
    simp only [unread, StreamMultiplexer.lookup_withConn, hd, Option.map_some] at hunread
    have he : rest = f.wireBytes ++ rest := (Option.some.inj hunread).trans hf
    exact wireBytes_ne_nil f (List.self_eq_append_left.mp he)

def Whole (chunks : List Chunk) (err : Option TransportError) : Prop :=
  chunks.length = 1 ∧ err ≠ some .eof ∨ chunks = [] ∧ err = some .eof

instance : Decidable (Whole chunks err) := inferInstanceAs (Decidable (_ ∨ _))

lemma localFrames_eq_nil : localFrames counter chunks err = [] ↔ chunks = [] ∧ err ≠ some .eof := by
  cases chunks with
  | nil =>
    cases err with
    | none => simp [localFrames]
    | some err => simp [localFrames]
  | cons chunk chunks => simp [localFrames]

lemma eofFrame_wire : (newDataFrame counter [] false).setEOF.Wire :=
  ⟨rfl, Nat.zero_le _⟩

lemma respond_eofFrame : respond codec (.ok (newDataFrame counter [] false).setEOF) = deliver [] := by
  simp [respond, Codec.framePayload, frameTypeData, frameTypeError]

section Agent

variable {σ : Type*} [MessageConn σ] {tc : TunnelConnection Duplex σ} {conn conn' : Duplex}
  {written : Bytes}

/-- The client gets the response, whole and with nothing left over, if and only if the agent reads it
from the local service in one piece and sends nothing after it. -/
theorem response_delivered_iff (hsc : sm.activeStreams.lookup streamID = some sc)
    (h : forward codec streamID sm r = some sm') (hq : tc.quicConn = some conn)
    (hc : conn.closed = false)
    (hq' : (tc.forwardLocalToRemote counter chunks err).quicConn = some conn')
    (hw : conn'.outbound = conn.outbound ++ written) (hin : sc.conn.inbound = written ++ rest) :
    (handleHTTP codec r.1 sm streamID r.2).1 = deliver (body chunks) ∧
      unread (handleHTTP codec r.1 sm streamID r.2).2 streamID = some rest ↔ Whole chunks err := by
  rw [TunnelConnection.forwardLocalToRemote_frames hq hc] at hq'
  obtain rfl := Option.some.inj hq'
  obtain rfl := List.append_cancel_left hw
  cases chunks with
  | nil =>
    by_cases he : err = some .eof
    · subst he
      have hin' : sc.conn.inbound = (newDataFrame counter [] false).setEOF.wireBytes ++ rest := by
        rw [hin]
        simp [localFrames]
      obtain ⟨hcalls, hunread⟩ := handleHTTP_frame hsc h eofFrame_wire hin'
      rw [respond_eofFrame] at hcalls
      exact iff_of_true ⟨hcalls, hunread⟩ (Or.inr ⟨rfl, rfl⟩)
    · have hframes : localFrames counter [] err = [] := localFrames_eq_nil.mpr ⟨rfl, he⟩
      have hnil := handleHTTP_nil hsc h
      rw [hin, hframes] at hnil
      exact iff_of_false hnil (by simp [Whole, he])
  | cons chunk chunks =>
    obtain ⟨hcalls, hunread⟩ := handleHTTP_cons hsc h hin
    have hrest : unread (handleHTTP codec r.1 sm streamID r.2).2 streamID = some rest ↔
        chunks = [] ∧ err ≠ some .eof := by
      rw [hunread, Option.some.injEq, List.append_left_eq_self, flatMap_wireBytes_eq_nil,
        localFrames_eq_nil]
    rw [hrest, hcalls]
    constructor
    · rintro ⟨_, rfl, he⟩
      exact Or.inl ⟨rfl, he⟩
    · rintro (⟨hl, he⟩ | ⟨hnil, _⟩)
      · obtain rfl : chunks = [] := by simpa using hl
        exact ⟨by simp [body], rfl, he⟩
      · cases hnil

end Agent

def exampleChunks : List Chunk :=
  [⟨ascii "HTTP/1.1 200 OK" ++ crlf ++ crlf, by decide⟩, ⟨ascii "ok", by decide⟩]

def exampleWritten (chunks : List Chunk) : Bytes :=
  (localFrames 1 chunks none).flatMap Frame.wireBytes

lemma exampleWritten_sent (chunks : List Chunk) :
    ((exampleAgent []).forwardLocalToRemote 1 chunks none).quicConn =
      some ((exampleConn []).sent (exampleWritten chunks)) := by
  rw [TunnelConnection.forwardLocalToRemote_frames rfl rfl]
  rfl

theorem response_delivered_example :
    let sm := exampleMux (exampleWritten [⟨ascii "HTTP/1.1 200 OK" ++ crlf ++ crlf, by decide⟩])
    (handleHTTP Codec.framing exampleRequest.1 sm 1 exampleRequest.2).1 =
        deliver (body [⟨ascii "HTTP/1.1 200 OK" ++ crlf ++ crlf, by decide⟩]) ∧
      unread (handleHTTP Codec.framing exampleRequest.1 sm 1 exampleRequest.2).2 1 = some [] := by
  intro sm
  exact (response_delivered_iff (lookup_exampleMux _) (forward_exampleRequest _) rfl rfl
    (exampleWritten_sent _) rfl (List.append_nil _).symm).mpr (by decide)

theorem response_delivered_fails :
    ((exampleAgent []).forwardLocalToRemote 1 exampleChunks none).quicConn =
      some ((exampleConn []).sent (exampleWritten exampleChunks)) ∧
    unread (handleHTTP Codec.framing exampleRequest.1 (exampleMux (exampleWritten exampleChunks)) 1
      exampleRequest.2).2 1 = some (newDataFrame 2 (ascii "ok") false).wireBytes := by
  have hin : (exampleConn (exampleWritten exampleChunks)).inbound =
      exampleWritten exampleChunks ++ [] := (List.append_nil _).symm
  have hunread := (handleHTTP_cons (lookup_exampleMux _) (forward_exampleRequest _) hin).2
  exact ⟨exampleWritten_sent exampleChunks, hunread⟩

end OmniTun.DataPath
