import OmniTun.Relay.Handshake

/-! What a handshake that the relay gives up on leaves behind. -/

namespace OmniTun.Relay.AbandonedHandshake

open OmniTun.Foundation OmniTun.Foundation.Transport OmniTun.Protocol

variable {κ : Type*}

def Counted (sm : StreamMultiplexer κ) : Prop :=
  ∀ id sc, sm.activeStreams.lookup id = some sc → id < sm.nextStreamID

def Traceless (s s' : Server κ) : Prop :=
  s'.dispatcher = s.dispatcher ∧ s'.streamMux.activeStreams = s.streamMux.activeStreams

/-- The first frame asks for a tunnel with a valid token, and the stream does not take the frame
that acknowledges it. -/
def AckFails [Reader κ] [Writer κ] (mac : Bytes → Bytes → Bytes) (now : ℤ) (s : Server κ)
    (accepted : Option κ) : Prop :=
  ∃ stream stream' frame tunnelID, accepted = some stream ∧
    decodeFrame stream = (.ok frame, stream') ∧
    authorize mac s.tokenValidator now frame = .ok tunnelID ∧ tunnelID ≠ [] ∧
    (encodeFrame stream' (ackFrame tunnelID s.streamMux.nextStreamID)).1 ≠ none

lemma counted_new : Counted (newStreamMultiplexer κ) := by
  intro id sc h
  cases h

lemma Counted.fresh {sm : StreamMultiplexer κ} (h : Counted sm) :
    sm.activeStreams.lookup sm.nextStreamID = none := by
  cases hl : sm.activeStreams.lookup sm.nextStreamID with
  | none => rfl
  | some sc => exact absurd (h _ sc hl) (UInt64.lt_irrefl _)

lemma next_toNat {sm : StreamMultiplexer κ} (hn : sm.nextStreamID.toNat + 1 < 2 ^ 64) :
    (sm.nextStreamID + 1).toNat = sm.nextStreamID.toNat + 1 := by
  rw [UInt64.toNat_add]
  exact Nat.mod_eq_of_lt hn

lemma Counted.newStream {sm : StreamMultiplexer κ} (h : Counted sm)
    (hn : sm.nextStreamID.toNat + 1 < 2 ^ 64) (tunnelID : Bytes) (conn : κ) :
    Counted (sm.newStream tunnelID conn).2 := by
  have hnext := next_toNat hn
  intro id sc hsc
  show id < sm.nextStreamID + 1
  rw [UInt64.lt_iff_toNat_lt, hnext]
  have hsc' : (sm.activeStreams.insert sm.nextStreamID ⟨sm.nextStreamID, tunnelID, conn⟩).lookup id =
      some sc := hsc
  rw [Table.lookup_insert] at hsc'
  split_ifs at hsc' with he
  · rw [he]
    omega
  · have hlt := UInt64.lt_iff_toNat_lt.mp (h id sc hsc')
    omega

lemma Counted.withConn {sm : StreamMultiplexer κ} (h : Counted sm) {streamID : UInt64}
    (hid : streamID < sm.nextStreamID) (sc : StreamConnection κ) (conn : κ) :
    Counted (sm.withConn streamID sc conn) := by
  intro id sc' hsc
  by_cases he : id = streamID
  · exact he ▸ hid
  · rw [StreamMultiplexer.lookup_withConn_ne he] at hsc
    exact h id sc' hsc

variable [Writer κ] {s : Server κ} {stream : κ} {tunnelID : Bytes}

lemma reject_traceless (s : Server κ) (stream : κ) (message : Bytes) :
    Traceless s (s.reject stream message).2 :=
  ⟨rfl, rfl⟩

lemma connect_unnamed (s : Server κ) (stream : κ) :
    s.connect stream [] = s.reject stream (ascii "registration failed") := by
  simp [Server.connect, Dispatcher.register]

lemma connect_acked (h : (encodeFrame stream (ackFrame tunnelID s.streamMux.nextStreamID)).1 = none)
    (hid : tunnelID ≠ []) : (s.connect stream tunnelID).1.connectedAs ≠ none := by
  simp only [Server.connect, Dispatcher.register, hid, dif_neg, not_false_eq_true,
    StreamMultiplexer.newStream, h]
  exact Option.some_ne_none _

lemma connect_failed
    (h : (encodeFrame stream (ackFrame tunnelID s.streamMux.nextStreamID)).1 ≠ none)
    (hid : tunnelID ≠ []) : (s.connect stream tunnelID).1.connectedAs = none ∧
      (s.connect stream tunnelID).2.streamMux.getStream s.streamMux.nextStreamID ≠ none := by
  obtain ⟨err, herr⟩ := Option.ne_none_iff_exists'.mp h
  simp only [Server.connect, Dispatcher.register, hid, dif_neg, not_false_eq_true,
    StreamMultiplexer.newStream, herr]
  refine ⟨rfl, ?_⟩
  simp only [StreamMultiplexer.getStream, StreamMultiplexer.lookup_withConn]
  exact Option.some_ne_none _

lemma Counted.connect (h : Counted s.streamMux) (hn : s.streamMux.nextStreamID.toNat + 1 < 2 ^ 64)
    (stream : κ) (tunnelID : Bytes) : Counted (s.connect stream tunnelID).2.streamMux := by
  have hlt : s.streamMux.nextStreamID < s.streamMux.nextStreamID + 1 := by
    rw [UInt64.lt_iff_toNat_lt, next_toNat hn]
    omega
  have hopen := (h.newStream hn tunnelID stream).withConn hlt
    (s.streamMux.newStream tunnelID stream).1
  unfold Server.connect
  split
  · exact h
  · dsimp only
    split
    · exact hopen _
    · exact hopen _

variable [Reader κ] {mac : Bytes → Bytes → Bytes} {now : ℤ} {accepted : Option κ}

lemma traceless_of_acked (hack : ¬ AckFails mac now s accepted)
    (hgave : (s.handleQUICConnection mac now accepted).1.connectedAs = none) :
    Traceless s (s.handleQUICConnection mac now accepted).2 := by
  cases accepted with
  | none => exact ⟨rfl, rfl⟩
  | some stream =>
    rcases hd : decodeFrame stream with ⟨err | frame, stream'⟩
    · simp only [Server.handleQUICConnection, hd]
      exact ⟨rfl, rfl⟩
    · rw [Server.handleQUICConnection_decoded hd] at hgave ⊢
      cases hauth : authorize mac s.tokenValidator now frame with
      | error message => exact reject_traceless s stream' message
      | ok tunnelID =>
        by_cases hid : tunnelID = []
        · subst hid
          simp only [connect_unnamed]
          exact reject_traceless s stream' _
        · rw [hauth] at hgave
          by_contra
          apply hack
          refine ⟨stream, stream', frame, tunnelID, rfl, hd, hauth, hid, fun hnone => ?_⟩
          exact connect_acked hnone hid hgave

lemma Counted.handleQUICConnection (h : Counted s.streamMux)
    (hn : s.streamMux.nextStreamID.toNat + 1 < 2 ^ 64) :
    Counted (s.handleQUICConnection mac now accepted).2.streamMux := by
  unfold Server.handleQUICConnection
  split
  · exact h
  · split
    · exact h
    · split
      · exact h
      · exact h.connect hn _ _

/-- A handshake that is given up leaves no trace exactly where it is not the acknowledgement that
fails: by then the tunnel is registered and the stream is in the table. -/
theorem traceless_iff (hs : Counted s.streamMux) :
    ((s.handleQUICConnection mac now accepted).1.connectedAs = none →
      Traceless s (s.handleQUICConnection mac now accepted).2) ↔
    ¬ AckFails mac now s accepted := by
  constructor
  · rintro h ⟨stream, stream', frame, tunnelID, rfl, hd, hauth, hid, hack⟩
    rw [Server.handleQUICConnection_decoded hd, hauth] at h
    obtain ⟨hgave, hopen⟩ := connect_failed hack hid
    obtain ⟨-, hactive⟩ := h hgave
    apply hopen
    show (s.connect stream' tunnelID).2.streamMux.activeStreams.lookup _ = none
    rw [hactive]
    exact hs.fresh
  · exact traceless_of_acked

/-! A peer that has sent its first frame and takes no answer. -/

structure Unwritable where
  inbound : Bytes

instance : Reader Unwritable where
  readFull c n := ((readFull c.inbound n).1, ⟨(readFull c.inbound n).2⟩)

instance : Writer Unwritable where
  write c _ := (some .closed, c)

def emptyRelay : Server Unwritable :=
  ⟨newDispatcher, newStreamMultiplexer Unwritable, newTokenValidator (ascii "secret") 0⟩

def zeroSignature (_ _ : Bytes) : Bytes := List.replicate 32 0

def connectRequest : Frame :=
  ⟨frameVersion, frameTypeControl, 0, 0, controlTunnelConnect :: (ascii "T" ++ newline ::
    (emptyRelay.tokenValidator.generate zeroSignature 0 (ascii "T")).1)⟩

def halfOpen : Option Unwritable := some ⟨connectRequest.wireBytes⟩

lemma decode_connectRequest :
    decodeFrame (Unwritable.mk connectRequest.wireBytes) = (.ok connectRequest, ⟨[]⟩) := by
  have hwire : decodeFrame (connectRequest.wireBytes ++ []) = (.ok connectRequest, []) :=
    decodeFrame_wireBytes (by decide) []
  rw [List.append_nil] at hwire
  rw [decodeFrame_embed Unwritable.mk (fun _ _ => rfl), hwire]

lemma authorize_connectRequest :
    authorize zeroSignature emptyRelay.tokenValidator 0 connectRequest = .ok (ascii "T") := by
  decide

theorem traceless_emptyRelay :
    Counted emptyRelay.streamMux ∧ AckFails zeroSignature 0 emptyRelay halfOpen ∧
      ¬ ((emptyRelay.handleQUICConnection zeroSignature 0 halfOpen).1.connectedAs = none →
        Traceless emptyRelay (emptyRelay.handleQUICConnection zeroSignature 0 halfOpen).2) := by
  have hack : AckFails zeroSignature 0 emptyRelay halfOpen :=
    ⟨_, _, _, ascii "T", rfl, decode_connectRequest, authorize_connectRequest, by decide,
      Option.some_ne_none _⟩
  exact ⟨counted_new, hack, fun h => (traceless_iff counted_new).mp h hack⟩

theorem handshake_leaves_trace :
    (emptyRelay.handleQUICConnection zeroSignature 0 halfOpen).1.connectedAs = none ∧
    ¬ Traceless emptyRelay (emptyRelay.handleQUICConnection zeroSignature 0 halfOpen).2 := by
  have hrun : emptyRelay.handleQUICConnection zeroSignature 0 halfOpen =
      emptyRelay.connect ⟨[]⟩ (ascii "T") := by
    rw [halfOpen, Server.handleQUICConnection_decoded decode_connectRequest,
      authorize_connectRequest]
  have hid : ascii "T" ≠ [] := by decide
  have hack : (encodeFrame (Unwritable.mk [])
      (ackFrame (ascii "T") emptyRelay.streamMux.nextStreamID)).1 ≠ none :=
    Option.some_ne_none _
  rw [hrun]
  obtain ⟨hgave, hopen⟩ := connect_failed hack hid
  refine ⟨hgave, fun h => hopen ?_⟩
  show (emptyRelay.connect ⟨[]⟩ (ascii "T")).2.streamMux.activeStreams.lookup 1 = none
  rw [h.2]
  rfl

end OmniTun.Relay.AbandonedHandshake
