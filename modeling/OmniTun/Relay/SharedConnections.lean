import OmniTun.Relay.Stream

/-! The multiplexer's connections as references: what an operation on a stream does to them, and why
a multiplexer that owns its connections behaves the same. -/

namespace OmniTun.Relay

open OmniTun.Foundation OmniTun.Foundation.Transport OmniTun.Protocol

/-- A multiplexer whose streams refer to connections, and what the references stand for. -/
structure SharedMux (ι κ : Type*) where
  mux : StreamMultiplexer ι
  conns : ι → κ

namespace SharedMux

variable {ι κ : Type*}

def newStream (s : SharedMux ι κ) (tunnelID : Bytes) (conn : ι) :
    StreamConnection ι × SharedMux ι κ :=
  ((s.mux.newStream tunnelID conn).1, { s with mux := (s.mux.newStream tunnelID conn).2 })

def remove (s : SharedMux ι κ) (streamID : UInt64) : SharedMux ι κ :=
  { s with mux := { s.mux with activeStreams := s.mux.activeStreams.erase streamID } }

variable {s : SharedMux ι κ} {sm : StreamMultiplexer κ} {streamID id : UInt64}
  {sc : StreamConnection ι} {conn : ι} {c : κ}

@[simp] lemma remove_conns : (s.remove streamID).conns = s.conns := rfl

lemma lookup_remove : (s.remove streamID).mux.activeStreams.lookup id =
    if id = streamID then none else s.mux.activeStreams.lookup id :=
  Table.lookup_erase _ _ _

lemma lookup_newStream (tunnelID : Bytes) (conn : ι) :
    (s.newStream tunnelID conn).2.mux.activeStreams.lookup id =
      if id = s.mux.nextStreamID then some ⟨s.mux.nextStreamID, tunnelID, conn⟩
      else s.mux.activeStreams.lookup id :=
  Table.lookup_insert _ _ _ _

variable [DecidableEq ι]

def setConn (s : SharedMux ι κ) (conn : ι) (c : κ) : SharedMux ι κ :=
  { s with conns := Function.update s.conns conn c }

def closeStream [Closer κ] (s : SharedMux ι κ) (streamID : UInt64) : SharedMux ι κ :=
  match s.mux.activeStreams.lookup streamID with
  | none => s
  | some sc => (s.setConn sc.conn (close (s.conns sc.conn)).2).remove streamID

def forwardFrame [Writer κ] (s : SharedMux ι κ) (streamID : UInt64) (frame : Frame) :
    Option StreamError × SharedMux ι κ :=
  match s.mux.activeStreams.lookup streamID with
  | none => (some (.notFound streamID), s)
  | some sc =>
    let (err, c) := encodeFrame (s.conns sc.conn) frame
    (err.map .frame, s.setConn sc.conn c)

def forward [Writer κ] (s : SharedMux ι κ) (streamID : UInt64) (payload : Bytes) :
    Option StreamError × SharedMux ι κ :=
  s.forwardFrame streamID (newDataFrame streamID payload true)

def receive [Reader κ] (s : SharedMux ι κ) (streamID : UInt64) :
    Except StreamError Frame × SharedMux ι κ :=
  match s.mux.activeStreams.lookup streamID with
  | none => (.error (.notFound streamID), s)
  | some sc =>
    let (res, c) := decodeFrame (s.conns sc.conn)
    (res.mapError .frame, s.setConn sc.conn c)

@[simp] lemma setConn_mux : (s.setConn conn c).mux = s.mux := rfl

lemma closeStream_none [Closer κ] (h : s.mux.activeStreams.lookup streamID = none) :
    s.closeStream streamID = s := by
  simp only [closeStream, h]

lemma closeStream_some [Closer κ] (h : s.mux.activeStreams.lookup streamID = some sc) :
    s.closeStream streamID = (s.setConn sc.conn (close (s.conns sc.conn)).2).remove streamID := by
  simp only [closeStream, h]

lemma lookup_closeStream [Closer κ] : (s.closeStream streamID).mux.activeStreams.lookup id =
    if id = streamID then none else s.mux.activeStreams.lookup id := by
  cases h : s.mux.activeStreams.lookup streamID with
  | none =>
    rw [closeStream_none h]
    split_ifs with hid
    · rw [hid, h]
    · rfl
  | some sc =>
    rw [closeStream_some h]
    exact lookup_remove

lemma closeStream_next [Closer κ] :
    (s.closeStream streamID).mux.nextStreamID = s.mux.nextStreamID := by
  unfold closeStream
  split <;> rfl

lemma forwardFrame_none [Writer κ] (h : s.mux.activeStreams.lookup streamID = none)
    (frame : Frame) : s.forwardFrame streamID frame = (some (.notFound streamID), s) := by
  simp only [forwardFrame, h]

lemma forwardFrame_some [Writer κ] (h : s.mux.activeStreams.lookup streamID = some sc)
    (frame : Frame) : s.forwardFrame streamID frame =
      ((encodeFrame (s.conns sc.conn) frame).1.map .frame,
        s.setConn sc.conn (encodeFrame (s.conns sc.conn) frame).2) := by
  simp only [forwardFrame, h]

lemma receive_none [Reader κ] (h : s.mux.activeStreams.lookup streamID = none) :
    s.receive streamID = (.error (.notFound streamID), s) := by
  simp only [receive, h]

lemma receive_some [Reader κ] (h : s.mux.activeStreams.lookup streamID = some sc) :
    s.receive streamID = ((decodeFrame (s.conns sc.conn)).1.mapError .frame,
      s.setConn sc.conn (decodeFrame (s.conns sc.conn)).2) := by
  simp only [receive, h]

lemma forwardFrame_mux [Writer κ] (frame : Frame) :
    (s.forwardFrame streamID frame).2.mux = s.mux := by
  unfold forwardFrame
  split <;> rfl

lemma receive_mux [Reader κ] : (s.receive streamID).2.mux = s.mux := by
  unfold receive
  split <;> rfl

/-! A multiplexer that owns its connections. -/

def resolve (s : SharedMux ι κ) (sc : StreamConnection ι) : StreamConnection κ :=
  ⟨sc.streamID, sc.tunnelID, s.conns sc.conn⟩

structure Owns (s : SharedMux ι κ) (sm : StreamMultiplexer κ) : Prop where
  next : sm.nextStreamID = s.mux.nextStreamID
  active : ∀ id, sm.activeStreams.lookup id = (s.mux.activeStreams.lookup id).map s.resolve

def Unshared (s : SharedMux ι κ) : Prop :=
  ∀ id id' sc sc', s.mux.activeStreams.lookup id = some sc →
    s.mux.activeStreams.lookup id' = some sc' → sc.conn = sc'.conn → id = id'

lemma resolve_setConn (hu : s.Unshared) (h : s.mux.activeStreams.lookup streamID = some sc)
    {sc' : StreamConnection ι} (h' : s.mux.activeStreams.lookup id = some sc') :
    (s.setConn sc.conn c).resolve sc' =
      if id = streamID then { s.resolve sc with conn := c } else s.resolve sc' := by
  split_ifs with hid
  · subst hid
    obtain rfl := Option.some.inj (h.symm.trans h')
    simp [resolve, setConn]
  · have hne : sc'.conn ≠ sc.conn := fun he => hid (hu id streamID sc' sc h' h he)
    simp [resolve, setConn, hne]

lemma Owns.setConn (ho : s.Owns sm) (hu : s.Unshared)
    (h : s.mux.activeStreams.lookup streamID = some sc) (c : κ) :
    (s.setConn sc.conn c).Owns (sm.withConn streamID (s.resolve sc) c) := by
  refine ⟨ho.next, fun id => ?_⟩
  show (sm.activeStreams.insert streamID _).lookup id = (s.mux.activeStreams.lookup id).map _
  rw [Table.lookup_insert, ho.active]
  cases h' : s.mux.activeStreams.lookup id with
  | none =>
    have hid : id ≠ streamID := by
      rintro rfl
      rw [h] at h'
      cases h'
    simp only [hid, if_false, Option.map_none]
  | some sc' =>
    simp only [Option.map_some, resolve_setConn hu h h']
    split_ifs <;> rfl

omit [DecidableEq ι] in
lemma Owns.found (ho : s.Owns sm) (streamID : UInt64) :
    (s.mux.activeStreams.lookup streamID = none ∧ sm.activeStreams.lookup streamID = none) ∨
      ∃ sc, s.mux.activeStreams.lookup streamID = some sc ∧
        sm.activeStreams.lookup streamID = some (s.resolve sc) := by
  rw [ho.active]
  cases h : s.mux.activeStreams.lookup streamID with
  | none => exact .inl ⟨rfl, rfl⟩
  | some sc => exact .inr ⟨sc, rfl, rfl⟩

theorem Owns.forwardFrame [Writer κ] (ho : s.Owns sm) (hu : s.Unshared) (streamID : UInt64)
    (frame : Frame) :
    (sm.forwardFrame streamID frame).1 = (s.forwardFrame streamID frame).1 ∧
      (s.forwardFrame streamID frame).2.Owns (sm.forwardFrame streamID frame).2 := by
  rcases ho.found streamID with ⟨h, hsm⟩ | ⟨sc, h, hsm⟩
  · simp only [forwardFrame_none h, StreamMultiplexer.forwardFrame, hsm]
    exact ⟨trivial, ho⟩
  · simp only [forwardFrame_some h, StreamMultiplexer.forwardFrame, hsm]
    exact ⟨rfl, ho.setConn hu h _⟩

theorem Owns.receive [Reader κ] (ho : s.Owns sm) (hu : s.Unshared) (streamID : UInt64) :
    (sm.receive streamID).1 = (s.receive streamID).1 ∧
      (s.receive streamID).2.Owns (sm.receive streamID).2 := by
  rcases ho.found streamID with ⟨h, hsm⟩ | ⟨sc, h, hsm⟩
  · simp only [receive_none h, StreamMultiplexer.receive, hsm]
    exact ⟨trivial, ho⟩
  · simp only [receive_some h, StreamMultiplexer.receive, hsm]
    exact ⟨rfl, ho.setConn hu h _⟩

omit [DecidableEq ι] in
theorem Owns.newStream (ho : s.Owns sm) (tunnelID : Bytes) (conn : ι) :
    (sm.newStream tunnelID (s.conns conn)).1 = s.resolve (s.newStream tunnelID conn).1 ∧
      (s.newStream tunnelID conn).2.Owns (sm.newStream tunnelID (s.conns conn)).2 := by
  have hsc :
      (sm.newStream tunnelID (s.conns conn)).1 = s.resolve (s.newStream tunnelID conn).1 := by
    simp [StreamMultiplexer.newStream, SharedMux.newStream, resolve, ho.next]
  refine ⟨hsc, congrArg (· + 1) ho.next, fun id => ?_⟩
  show (sm.activeStreams.insert sm.nextStreamID
    (sm.newStream tunnelID (s.conns conn)).1).lookup id = _
  rw [lookup_newStream, Table.lookup_insert, hsc, ho.next, ho.active]
  split_ifs <;> rfl

theorem Owns.closeStream [Closer κ] (ho : s.Owns sm) (hu : s.Unshared) (streamID : UInt64) :
    (s.closeStream streamID).Owns (sm.closeStream streamID).2 := by
  rcases ho.found streamID with ⟨h, hsm⟩ | ⟨sc, h, hsm⟩
  · simp only [closeStream_none h, StreamMultiplexer.closeStream, hsm]
    exact ho
  · simp only [closeStream_some h, StreamMultiplexer.closeStream, hsm]
    refine ⟨ho.next, fun id => ?_⟩
    show (sm.activeStreams.erase streamID).lookup id = _
    rw [lookup_remove, Table.lookup_erase, ho.active]
    split_ifs with hid
    · rfl
    · simp only [setConn_mux]
      cases h' : s.mux.activeStreams.lookup id with
      | none => rfl
      | some sc' =>
        have hset := resolve_setConn hu h h' (c := (close (s.conns sc.conn)).2)
        rw [if_neg hid] at hset
        exact congrArg some hset.symm

end SharedMux

end OmniTun.Relay
