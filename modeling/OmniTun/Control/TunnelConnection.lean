import OmniTun.Protocol.FrameCodec

/-! The agent's end of a tunnel: the loops between the relay and the local service. -/

namespace OmniTun.Control

open OmniTun.Foundation OmniTun.Foundation.Transport OmniTun.Protocol

class MessageConn (σ : Type*) where
  readJSON : σ → Except TransportError Frame × σ
  writeJSON : σ → Frame → Option TransportError × σ

export MessageConn (readJSON writeJSON)

instance : MessageConn (List Frame) where
  readJSON
    | [] => (.error .eof, [])
    | f :: fs => (.ok f, fs)
  writeJSON fs f := (none, fs ++ [f])

inductive AgentError
  | noTransport
  | frame (err : FrameError)
  | message (err : TransportError)
  deriving DecidableEq, Repr

structure TunnelConnection (κ σ : Type*) where
  tunnelID : Bytes
  token : Bytes
  quicConn : Option κ
  wsConn : Option σ

def readBufferSize : ℕ := 32 * 1024

abbrev Chunk := { bs : Bytes // 0 < bs.length ∧ bs.length ≤ readBufferSize }

namespace TunnelConnection

variable {κ σ ω : Type*} [Reader κ] [Writer κ] [MessageConn σ] [Writer ω]

def readFrame (tc : TunnelConnection κ σ) : Except AgentError Frame × TunnelConnection κ σ :=
  match tc.quicConn, tc.wsConn with
  | some conn, _ =>
    let (res, conn) := decodeFrame conn
    (res.mapError .frame, { tc with quicConn := some conn })
  | none, some conn =>
    let (res, conn) := readJSON conn
    (res.mapError .message, { tc with wsConn := some conn })
  | none, none => (.error .noTransport, tc)

def writeFrame (tc : TunnelConnection κ σ) (f : Frame) :
    Option AgentError × TunnelConnection κ σ :=
  match tc.quicConn, tc.wsConn with
  | some conn, _ =>
    let (err, conn) := encodeFrame conn f
    (err.map .frame, { tc with quicConn := some conn })
  | none, some conn =>
    let (err, conn) := writeJSON conn f
    (err.map .message, { tc with wsConn := some conn })
  | none, none => (some .noTransport, tc)

def forwardRemoteToLocal : ℕ → TunnelConnection κ σ → ω → TunnelConnection κ σ × ω
  -- the context is done
  | 0, tc, localConn => (tc, localConn)
  | n + 1, tc, localConn =>
    match tc.readFrame with
    | (.error _, tc) => (tc, localConn)
    | (.ok frame, tc) =>
      if frame.type = frameTypeControl then
        if frame.controlSubType = controlTunnelClose then (tc, localConn)
        else forwardRemoteToLocal n tc localConn
      else
        match if 0 < frame.payload.length then write localConn frame.payload else (none, localConn) with
        | (some _, localConn) => (tc, localConn)
        | (none, localConn) =>
          if frame.isEOF then (tc, localConn) else forwardRemoteToLocal n tc localConn

/-- The reads of the local connection return the chunks, then the error if there is one. Without, the
context is done before the next read returns. -/
def forwardLocalToRemote (tc : TunnelConnection κ σ) (streamID : UInt64) :
    List Chunk → Option TransportError → TunnelConnection κ σ
  | [], none => tc
  | [], some err =>
    if err = .eof then (tc.writeFrame (newDataFrame streamID [] false).setEOF).2 else tc
  | bs :: chunks, err =>
    match tc.writeFrame (newDataFrame streamID bs.val false) with
    | (some _, tc) => tc
    | (none, tc) => forwardLocalToRemote tc (streamID + 1) chunks err

end TunnelConnection

def localFrames (streamID : UInt64) : List Chunk → Option TransportError → List Frame
  | [], none => []
  | [], some err => if err = .eof then [(newDataFrame streamID [] false).setEOF] else []
  | bs :: chunks, err => newDataFrame streamID bs.val false :: localFrames (streamID + 1) chunks err

lemma chunk_wire (streamID : UInt64) (bs : Chunk) : (newDataFrame streamID bs.val false).Wire := by
  have h := bs.property.2
  simp only [readBufferSize] at h
  exact newDataFrame_wire (by simp only [maxPayload]; omega)

namespace TunnelConnection

section Duplex

variable {σ : Type*} [MessageConn σ] {tc : TunnelConnection Duplex σ} {conn : Duplex}

lemma readFrame_duplex (hq : tc.quicConn = some conn) (hc : conn.closed = false) {f : Frame}
    {rest : Bytes} (hf : f.Wire) (hin : conn.inbound = f.wireBytes ++ rest) :
    tc.readFrame = (.ok f, { tc with quicConn := some (conn.withInbound rest) }) := by
  simp only [readFrame, hq, decodeFrame_duplex hc, hin, decodeFrame_wireBytes hf]
  rfl

lemma writeFrame_duplex (hq : tc.quicConn = some conn) (hc : conn.closed = false) {f : Frame}
    (hf : f.Wire) :
    tc.writeFrame f =
      (none, { tc with quicConn := some (conn.sent f.wireBytes) }) := by
  simp only [writeFrame, hq, encodeFrame_duplex hc hf.2]
  rfl

lemma forwardRemoteToLocal_succ (hq : tc.quicConn = some conn) (hc : conn.closed = false)
    {f : Frame} {rest : Bytes} (hf : f.Wire) (hin : conn.inbound = f.wireBytes ++ rest)
    (hdata : f.type ≠ frameTypeControl) (heof : f.isEOF = false) (n : ℕ) (localConn : Bytes) :
    tc.forwardRemoteToLocal (n + 1) localConn =
      forwardRemoteToLocal n { tc with quicConn := some (conn.withInbound rest) }
        (localConn ++ f.payload) := by
  simp only [forwardRemoteToLocal, readFrame_duplex hq hc hf hin, hdata, heof, if_false,
    write_buffer, Bool.false_eq_true]
  split_ifs with hl
  · rfl
  · simp [List.length_eq_zero_iff.mp (Nat.eq_zero_of_not_pos hl)]

lemma forwardRemoteToLocal_nil (hq : tc.quicConn = some conn) (hc : conn.closed = false)
    (hin : conn.inbound = []) (n : ℕ) (localConn : Bytes) :
    (tc.forwardRemoteToLocal n localConn).2 = localConn := by
  cases n with
  | zero => rfl
  | succ n =>
    have hread : (tc.readFrame).1 = .error (.frame (.readHeader .eof)) := by
      simp only [readFrame, hq, decodeFrame_duplex hc, hin]
      rfl
    simp only [forwardRemoteToLocal]
    split
    · rfl
    · simp_all

lemma forwardRemoteToLocal_frames {fs : List Frame}
    (hfs : ∀ f ∈ fs, f.Wire ∧ f.type ≠ frameTypeControl ∧ f.isEOF = false)
    (hq : tc.quicConn = some conn) (hc : conn.closed = false)
    (hin : conn.inbound = fs.flatMap Frame.wireBytes) {n : ℕ} (hn : fs.length ≤ n)
    (localConn : Bytes) :
    (tc.forwardRemoteToLocal n localConn).2 = localConn ++ fs.flatMap Frame.payload := by
  induction fs generalizing tc conn n localConn with
  | nil =>
    rw [forwardRemoteToLocal_nil hq hc hin]
    simp
  | cons f fs ih =>
    obtain ⟨n, rfl⟩ := Nat.exists_eq_add_of_le' (Nat.one_le_of_lt hn)
    obtain ⟨hf, hdata, heof⟩ := hfs f List.mem_cons_self
    have hfs' : ∀ g ∈ fs, g.Wire ∧ g.type ≠ frameTypeControl ∧ g.isEOF = false :=
      fun g hg => hfs g (List.mem_cons_of_mem f hg)
    let conn' := conn.withInbound (fs.flatMap Frame.wireBytes)
    have hq' : ({ tc with quicConn := some conn' } : TunnelConnection Duplex σ).quicConn =
        some conn' := rfl
    have hrest := ih hfs' hq' hc rfl (Nat.le_of_succ_le_succ hn) (localConn ++ f.payload)
    rw [forwardRemoteToLocal_succ hq hc hf hin hdata heof]
    exact hrest.trans (by simp)

lemma forwardLocalToRemote_frames (hq : tc.quicConn = some conn) (hc : conn.closed = false)
    (streamID : UInt64) (chunks : List Chunk) (err : Option TransportError) :
    tc.forwardLocalToRemote streamID chunks err =
      { tc with
        quicConn := some (conn.sent ((localFrames streamID chunks err).flatMap Frame.wireBytes)) } := by
  induction chunks generalizing tc conn streamID with
  | nil =>
    cases err with
    | none => simp [forwardLocalToRemote, localFrames, ← hq]
    | some err =>
      simp only [forwardLocalToRemote, localFrames]
      split_ifs with he
      · rw [writeFrame_duplex hq hc ⟨rfl, Nat.zero_le _⟩]
        simp
      · simp [← hq]
  | cons bs chunks ih =>
    let conn' := conn.sent (newDataFrame streamID bs.val false).wireBytes
    have hq' : ({ tc with quicConn := some conn' } : TunnelConnection Duplex σ).quicConn =
        some conn' := rfl
    have hrest := ih hq' hc (streamID + 1)
    simp only [forwardLocalToRemote, writeFrame_duplex hq hc (chunk_wire streamID bs)]
    exact hrest.trans (by simp [localFrames, conn'])

end Duplex

end TunnelConnection

end OmniTun.Control
