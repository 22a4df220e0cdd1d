import OmniTun.Foundation.SecondaryIndex
import OmniTun.Protocol.FrameCodec

/-! The stream multiplexer: the relay's table of connections, by stream id. -/

namespace OmniTun.Relay

open OmniTun.Foundation OmniTun.Foundation.Transport OmniTun.Protocol

structure StreamConnection (κ : Type*) where
  streamID : UInt64
  tunnelID : Bytes
  conn : κ

structure StreamMultiplexer (κ : Type*) where
  activeStreams : Table UInt64 (StreamConnection κ)
  nextStreamID : UInt64

inductive StreamError
  | notFound (streamID : UInt64)
  | frame (err : FrameError)
  deriving DecidableEq, Repr

def newStreamMultiplexer (κ : Type*) : StreamMultiplexer κ := ⟨∅, 1⟩

namespace StreamMultiplexer

variable {κ : Type*}

def newStream (sm : StreamMultiplexer κ) (tunnelID : Bytes) (conn : κ) :
    StreamConnection κ × StreamMultiplexer κ :=
  let sc : StreamConnection κ := ⟨sm.nextStreamID, tunnelID, conn⟩
  (sc, ⟨sm.activeStreams.insert sm.nextStreamID sc, sm.nextStreamID + 1⟩)

def closeStream [Closer κ] (sm : StreamMultiplexer κ) (streamID : UInt64) :
    Option κ × StreamMultiplexer κ :=
  match sm.activeStreams.lookup streamID with
  | none => (none, sm)
  | some sc =>
    -- an error of the close is only logged
    (some (close sc.conn).2, { sm with activeStreams := sm.activeStreams.erase streamID })

def getStream (sm : StreamMultiplexer κ) (streamID : UInt64) : Option (StreamConnection κ) :=
  sm.activeStreams.lookup streamID

def streamCount (sm : StreamMultiplexer κ) : ℕ := sm.activeStreams.keys.card

/-- The connections are shared by reference: what is read from or written to one is seen by every
later lookup of its stream. -/
def withConn (sm : StreamMultiplexer κ) (streamID : UInt64) (sc : StreamConnection κ) (conn : κ) :
    StreamMultiplexer κ :=
  { sm with activeStreams := sm.activeStreams.insert streamID { sc with conn := conn } }

def forwardFrame [Writer κ] (sm : StreamMultiplexer κ) (streamID : UInt64) (frame : Frame) :
    Option StreamError × StreamMultiplexer κ :=
  match sm.activeStreams.lookup streamID with
  | none => (some (.notFound streamID), sm)
  | some sc =>
    let (err, conn) := encodeFrame sc.conn frame
    (err.map .frame, sm.withConn streamID sc conn)

def forward [Writer κ] (sm : StreamMultiplexer κ) (streamID : UInt64) (payload : Bytes) :
    Option StreamError × StreamMultiplexer κ :=
  sm.forwardFrame streamID (newDataFrame streamID payload true)

def receive [Reader κ] (sm : StreamMultiplexer κ) (streamID : UInt64) :
    Except StreamError Frame × StreamMultiplexer κ :=
  match sm.activeStreams.lookup streamID with
  | none => (.error (.notFound streamID), sm)
  | some sc =>
    let (res, conn) := decodeFrame sc.conn
    (res.mapError .frame, sm.withConn streamID sc conn)

section Lookup

variable {sm : StreamMultiplexer κ} {streamID : UInt64} {sc : StreamConnection κ} {conn : κ}

lemma lookup_withConn (sm : StreamMultiplexer κ) (streamID : UInt64) (sc : StreamConnection κ)
    (conn : κ) :
    (sm.withConn streamID sc conn).activeStreams.lookup streamID = some { sc with conn := conn } :=
  Finmap.lookup_insert _

lemma lookup_withConn_ne {id : UInt64} (h : id ≠ streamID) :
    (sm.withConn streamID sc conn).activeStreams.lookup id = sm.activeStreams.lookup id :=
  Finmap.lookup_insert_of_ne _ h

end Lookup

section Duplex

variable {sm sm' : StreamMultiplexer Duplex} {streamID : UInt64} {sc : StreamConnection Duplex}
  {f : Frame}

lemma forwardFrame_duplex (hsc : sm.activeStreams.lookup streamID = some sc)
    (hc : sc.conn.closed = false) (hf : f.payload.length ≤ maxPayload) :
    sm.forwardFrame streamID f = (none, sm.withConn streamID sc (sc.conn.sent f.wireBytes)) := by
  simp only [forwardFrame, hsc, encodeFrame_duplex hc hf]
  rfl

lemma forwardFrame_tooLarge (hsc : sm.activeStreams.lookup streamID = some sc)
    (hf : maxPayload < f.payload.length) : sm.forwardFrame streamID f =
      (some (.frame (.payloadTooLarge f.payload.length)), sm.withConn streamID sc sc.conn) := by
  simp only [forwardFrame, hsc, encodeFrame_tooLarge sc.conn hf]
  rfl

lemma forwardFrame_closed (hsc : sm.activeStreams.lookup streamID = some sc)
    (hc : sc.conn.closed = true) : (sm.forwardFrame streamID f).1 ≠ none := by
  simp only [forwardFrame, hsc, encodeFrame, write, hc, if_true]
  split_ifs <;> simp

lemma forwardFrame_ok (hsc : sm.activeStreams.lookup streamID = some sc)
    (h : sm.forwardFrame streamID f = (none, sm')) :
    sc.conn.closed = false ∧ f.payload.length ≤ maxPayload ∧
      sm' = sm.withConn streamID sc (sc.conn.sent f.wireBytes) := by
  have hc : sc.conn.closed = false := by
    by_contra hc
    exact forwardFrame_closed hsc (Bool.eq_true_of_not_eq_false hc) (congrArg Prod.fst h)
  have hf : f.payload.length ≤ maxPayload := by
    by_contra hf
    simp [forwardFrame_tooLarge hsc (Nat.lt_of_not_le hf)] at h
  rw [forwardFrame_duplex hsc hc hf] at h
  exact ⟨hc, hf, (congrArg Prod.snd h).symm⟩

lemma receive_duplex (hsc : sm.activeStreams.lookup streamID = some sc)
    (hc : sc.conn.closed = false) :
    sm.receive streamID = ((decodeFrame sc.conn.inbound).1.mapError .frame,
      sm.withConn streamID sc (sc.conn.withInbound (decodeFrame sc.conn.inbound).2)) := by
  simp only [receive, hsc, decodeFrame_duplex hc]

lemma receive_wireBytes (hsc : sm.activeStreams.lookup streamID = some sc)
    (hc : sc.conn.closed = false) (hf : f.Wire) {rest : Bytes}
    (hin : sc.conn.inbound = f.wireBytes ++ rest) :
    sm.receive streamID = (.ok f, sm.withConn streamID sc (sc.conn.withInbound rest)) := by
  rw [receive_duplex hsc hc, hin, decodeFrame_wireBytes hf]
  rfl

end Duplex

end StreamMultiplexer

end OmniTun.Relay
