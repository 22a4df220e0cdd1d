import OmniTun.Foundation.Transition
import OmniTun.Relay.Proxy

/-! WebSocket clients: the two loops of `handleWebSocket` over a pipe that the handler enters into the
multiplexer as a stream of its own. -/

namespace OmniTun.DataPath.WebSocket

open OmniTun.Foundation OmniTun.Foundation.Transport OmniTun.Foundation.Transition
open OmniTun.Protocol OmniTun.Relay

/-- The connection of a stream: an agent's, or the two joined ends of a pipe, with what was written
and not read yet. A write to the pipe ends when all of it is read. -/
inductive Conn
  | agent (conn : Duplex)
  | pipe (unread : Bytes)
  deriving DecidableEq

instance : Closer Conn where
  close
    | .agent conn => (none, .agent (close conn).2)
    | .pipe _ => (none, .pipe [])

inductive Sender
  | reading
  | writing (msg : Bytes) (writes : List Bytes)
  | stopped

inductive Receiver
  | header
  | payload (f : Frame) (length : ℕ)
  | stopped

/-- `taken` are the client's messages that the sending loop is done with, `delivered` those that the
receiving loop wrote to the client. -/
structure State where
  mux : StreamMultiplexer Conn
  client : List Bytes
  sender : Sender
  receiver : Receiver
  taken : List Bytes
  delivered : List Bytes

inductive Action
  | send
  | write
  | finish
  | read
  | hangUp
  | close

def pipe (sm : StreamMultiplexer Conn) (streamID : UInt64) : Option Bytes :=
  match sm.activeStreams.lookup streamID with
  | some ⟨_, _, .pipe unread⟩ => some unread
  | _ => none

def setPipe (sm : StreamMultiplexer Conn) (streamID : UInt64) (unread : Bytes) :
    StreamMultiplexer Conn :=
  match sm.activeStreams.lookup streamID with
  | some sc => sm.withConn streamID sc (.pipe unread)
  | none => sm

section

variable (codec : Codec) (streamID : UInt64)

def init (sm : StreamMultiplexer Conn) (tunnelID : Bytes) (msgs : List Bytes) : State where
  mux := (sm.newStream (tunnelID ++ ascii "-ws") (.pipe [])).2
  client := msgs
  sender := .reading
  receiver := .header
  taken := []
  delivered := []

def deliver (s : State) (f : Frame) : State :=
  match codec.framePayload f with
  | none => { s with receiver := .stopped }
  | some payload => { s with receiver := .header, delivered := s.delivered ++ [payload] }

def takeMessage (s : State) (msg : Bytes) : State :=
  match codec.compressPayload msg, pipe s.mux streamID with
  | some compressed, some _ =>
    -- the frame is too large to be forwarded, and the loop ends
    if maxPayload < compressed.length then { s with sender := .stopped, taken := s.taken ++ [msg] }
    else { s with sender := .writing msg (newDataFrame streamID compressed true).writes }
  | _, _ => { s with sender := .stopped, taken := s.taken ++ [msg] }

def receive (s : State) (unread : Bytes) : Option State :=
  match s.receiver with
  | .header =>
    if headerSize ≤ unread.length then
      let s := { s with mux := setPipe s.mux streamID (unread.drop headerSize) }
      match parseHeader (unread.take headerSize) with
      | .error _ => some { s with receiver := .stopped }
      | .ok (f, length) =>
        if 0 < length then some { s with receiver := .payload f length }
        else some (deliver codec s f)
    else none
  | .payload f length =>
    if length ≤ unread.length then
      some (deliver codec { s with mux := setPipe s.mux streamID (unread.drop length) }
        { f with payload := unread.take length })
    else none
  | .stopped => none

def step (s : State) : Action → Option State
  | .send =>
    match s.sender, s.client with
    | .reading, msg :: client => some (takeMessage codec streamID { s with client := client } msg)
    | _, _ => none
  | .write =>
    match s.sender, pipe s.mux streamID with
    | .writing msg (bs :: writes), some [] =>
      some { s with mux := setPipe s.mux streamID bs, sender := .writing msg writes }
    | _, _ => none
  | .finish =>
    match s.sender, pipe s.mux streamID with
    | .writing msg [], some [] => some { s with sender := .reading, taken := s.taken ++ [msg] }
    | _, _ => none
  | .read => (pipe s.mux streamID).bind (receive codec streamID s)
  | .hangUp =>
    match s.sender with
    | .reading => some { s with sender := .stopped }
    | _ => none
  | .close =>
    match s.sender, s.receiver with
    | .stopped, _ | _, .stopped =>
      some { s with
        mux := (s.mux.closeStream streamID).2
        sender := .stopped
        receiver := .stopped }
    | _, _ => none

end

def agentConn (sm : StreamMultiplexer Conn) (agentID : UInt64) : Option Duplex :=
  match sm.activeStreams.lookup agentID with
  | some ⟨_, _, .agent conn⟩ => some conn
  | _ => none

/-- Every message taken from the client is in a frame to the agent, and every message delivered to the
client is in a frame from the agent. -/
structure Relayed (codec : Codec) (agentID : UInt64) (agent : Duplex) (s : State) : Prop where
  sent : ∃ conn, ∃ frames : List Frame, agentConn s.mux agentID = some conn ∧
    conn.outbound = agent.outbound ++ frames.flatMap Frame.wireBytes ∧
    (∀ f ∈ frames, f.type = frameTypeData) ∧ frames.map codec.framePayload = s.taken.map some
  received : ∃ conn, ∃ frames : List Frame, agentConn s.mux agentID = some conn ∧
    agent.inbound = frames.flatMap Frame.wireBytes ++ conn.inbound ∧
    ∀ msg ∈ s.delivered, ∃ f ∈ frames, codec.framePayload f = some msg

variable {codec : Codec} {streamID agentID : UInt64} {sm : StreamMultiplexer Conn} {s t : State}
  {unread : Bytes} {agent : Duplex}

lemma pipe_setPipe (h : pipe sm streamID = some unread) (bs : Bytes) :
    pipe (setPipe sm streamID bs) streamID = some bs := by
  cases hl : sm.activeStreams.lookup streamID with
  | none => simp [pipe, hl] at h
  | some sc => simp only [setPipe, hl, pipe, StreamMultiplexer.lookup_withConn]

section Untouched

lemma agentConn_congr {sm' : StreamMultiplexer Conn}
    (h : sm'.activeStreams.lookup agentID = sm.activeStreams.lookup agentID) :
    agentConn sm' agentID = agentConn sm agentID := by
  simp only [agentConn, h]

lemma agentConn_setPipe (hne : agentID ≠ streamID) (bs : Bytes) :
    agentConn (setPipe sm streamID bs) agentID = agentConn sm agentID := by
  apply agentConn_congr
  cases hl : sm.activeStreams.lookup streamID with
  | none => simp only [setPipe, hl]
  | some sc => simp only [setPipe, hl, StreamMultiplexer.lookup_withConn_ne hne]

lemma agentConn_closeStream (hne : agentID ≠ streamID) :
    agentConn (sm.closeStream streamID).2 agentID = agentConn sm agentID := by
  apply agentConn_congr
  cases hl : sm.activeStreams.lookup streamID with
  | none => simp only [StreamMultiplexer.closeStream, hl]
  | some sc => simp only [StreamMultiplexer.closeStream, hl, Table.lookup_erase, if_neg hne]

lemma deliver_mux (s : State) (f : Frame) : (deliver codec s f).mux = s.mux := by
  unfold deliver
  split <;> rfl

lemma takeMessage_mux (s : State) (msg : Bytes) : (takeMessage codec streamID s msg).mux = s.mux := by
  unfold takeMessage
  split
  · split_ifs <;> rfl
  · rfl

lemma agentConn_receive (hne : agentID ≠ streamID) (h : receive codec streamID s unread = some t) :
    agentConn t.mux agentID = agentConn s.mux agentID := by
  unfold receive at h
  split at h
  · split_ifs at h
    dsimp only at h
    split at h
    · obtain rfl := Option.some.inj h
      exact agentConn_setPipe hne _
    · split_ifs at h
      · obtain rfl := Option.some.inj h
        exact agentConn_setPipe hne _
      · obtain rfl := Option.some.inj h
        rw [deliver_mux]
        exact agentConn_setPipe hne _
  · split_ifs at h
    obtain rfl := Option.some.inj h
    rw [deliver_mux]
    exact agentConn_setPipe hne _
  · cases h

lemma agentConn_step {a : Action} (hne : agentID ≠ streamID)
    (h : step codec streamID s a = some t) :
    agentConn t.mux agentID = agentConn s.mux agentID := by
  cases a with
  | send =>
    simp only [step] at h
    split at h
    · obtain rfl := Option.some.inj h
      rw [takeMessage_mux]
    · cases h
  | write =>
    simp only [step] at h
    split at h
    · obtain rfl := Option.some.inj h
      exact agentConn_setPipe hne _
    · cases h
  | finish =>
    simp only [step] at h
    split at h
    · obtain rfl := Option.some.inj h
      rfl
    · cases h
  | read =>
    obtain ⟨unread, _, hr⟩ := Option.bind_eq_some_iff.mp h
    exact agentConn_receive hne hr
  | hangUp =>
    simp only [step] at h
    split at h
    · obtain rfl := Option.some.inj h
      rfl
    · cases h
  | close =>
    simp only [step] at h
    split at h
    · obtain rfl := Option.some.inj h
      exact agentConn_closeStream hne
    · obtain rfl := Option.some.inj h
      exact agentConn_closeStream hne
    · cases h

lemma agentConn_init (hne : agentID ≠ sm.nextStreamID) (tunnelID : Bytes) (msgs : List Bytes) :
    agentConn (init sm tunnelID msgs).mux agentID = agentConn sm agentID :=
  agentConn_congr (Finmap.lookup_insert_of_ne _ hne)

lemma agentConn_run {actions : List Action} (hne : agentID ≠ streamID)
    (h : run (step codec streamID) s actions = some t) :
    agentConn t.mux agentID = agentConn s.mux agentID :=
  run_invariant (P := fun u => agentConn u.mux agentID = agentConn s.mux agentID) rfl h
    fun _ _ _ hs hstep => (agentConn_step hne hstep).trans hs

end Untouched

section Silence

structure Silent (streamID : UInt64) (s : State) : Prop where
  client : s.client = []
  sender : s.sender = .reading ∨ s.sender = .stopped
  receiver : s.receiver = .header ∨ s.receiver = .stopped
  taken : s.taken = []
  delivered : s.delivered = []
  pipe : pipe s.mux streamID = some [] ∨ pipe s.mux streamID = none

lemma pipe_init (tunnelID : Bytes) (msgs : List Bytes) :
    pipe (init sm tunnelID msgs).mux sm.nextStreamID = some [] := by
  have hl : (init sm tunnelID msgs).mux.activeStreams.lookup sm.nextStreamID =
      some ⟨sm.nextStreamID, tunnelID ++ ascii "-ws", .pipe []⟩ := Finmap.lookup_insert _
  simp only [pipe, hl]

lemma pipe_closeStream : pipe (sm.closeStream streamID).2 streamID = none := by
  cases hl : sm.activeStreams.lookup streamID with
  | none => simp only [StreamMultiplexer.closeStream, hl, pipe]
  | some sc => simp only [StreamMultiplexer.closeStream, hl, pipe, Finmap.lookup_erase]

lemma silent_init (tunnelID : Bytes) : Silent sm.nextStreamID (init sm tunnelID []) :=
  ⟨rfl, Or.inl rfl, Or.inl rfl, rfl, rfl, Or.inl (pipe_init tunnelID [])⟩

lemma silent_step {a : Action} (hs : Silent streamID s) (h : step codec streamID s a = some t) :
    Silent streamID t := by
  obtain ⟨hclient, hsender, hreceiver, htaken, hdelivered, hpipe⟩ := hs
  cases a with
  | send => rcases hsender with hr | hr <;> simp [step, hr, hclient] at h
  | write => rcases hsender with hr | hr <;> simp [step, hr] at h
  | finish => rcases hsender with hr | hr <;> simp [step, hr] at h
  | read =>
    rcases hpipe with hp | hp
    · rcases hreceiver with hr | hr <;> simp [step, hp, receive, hr, headerSize] at h
    · simp [step, hp] at h
  | hangUp =>
    rcases hsender with hr | hr
    · obtain rfl : { s with sender := .stopped } = t := by simpa [step, hr] using h
      exact ⟨hclient, Or.inr rfl, hreceiver, htaken, hdelivered, hpipe⟩
    · simp [step, hr] at h
  | close =>
    have ht : t = { s with
        mux := (s.mux.closeStream streamID).2
        sender := .stopped
        receiver := .stopped } := by
      simp only [step] at h
      split at h
      · exact (Option.some.inj h).symm
      · exact (Option.some.inj h).symm
      · cases h
    rw [ht]
    exact ⟨hclient, Or.inr rfl, Or.inr rfl, htaken, hdelivered, Or.inr pipe_closeStream⟩

lemma relayed_of_silent (hs : Silent streamID s) (hagent : agentConn s.mux agentID = some agent) :
    Relayed codec agentID agent s where
  sent := ⟨agent, [], hagent, by simp, by simp, by simp [hs.taken]⟩
  received := ⟨agent, [], hagent, by simp, by simp [hs.delivered]⟩

end Silence

section Loopback

variable {msg bs : Bytes} {msgs writes taken : List Bytes} {r : Receiver} {f : Frame}

structure At (streamID : UInt64) (taken : List Bytes) (sender : Sender) (receiver : Receiver)
    (unread : Bytes) (s : State) : Prop where
  pipe : pipe s.mux streamID = some unread
  sender : s.sender = sender
  receiver : s.receiver = receiver
  taken : s.taken = taken

variable (codec) in
lemma at_write (h : At streamID taken (.writing msg (bs :: writes)) r [] s) :
    ∃ t, step codec streamID s .write = some t ∧ At streamID taken (.writing msg writes) r bs t := by
  refine ⟨{ s with mux := setPipe s.mux streamID bs, sender := .writing msg writes }, ?_, ?_⟩
  · simp only [step, h.sender, h.pipe]
  · exact ⟨pipe_setPipe h.pipe bs, rfl, h.receiver, h.taken⟩

variable (codec) in
lemma at_finish (h : At streamID taken (.writing msg []) r [] s) :
    ∃ t, step codec streamID s .finish = some t ∧ t.taken = taken ++ [msg] := by
  refine ⟨{ s with sender := .reading, taken := s.taken ++ [msg] }, ?_, ?_⟩
  · simp only [step, h.sender, h.pipe]
  · rw [← h.taken]

lemma at_deliver {sender : Sender} (h : At streamID taken sender r [] s) (f : Frame) :
    ∃ r, At streamID taken sender r [] (deliver codec s f) := by
  unfold deliver
  split
  · exact ⟨.stopped, h.pipe, h.sender, rfl, h.taken⟩
  · exact ⟨.header, h.pipe, h.sender, rfl, h.taken⟩

lemma at_setPipe {sender : Sender} (h : At streamID taken sender r bs s) (unread : Bytes) :
    At streamID taken sender r unread { s with mux := setPipe s.mux streamID unread } :=
  ⟨pipe_setPipe h.pipe unread, h.sender, h.receiver, h.taken⟩

variable (codec) in
lemma at_read_header (hf : f.Wire) (h : At streamID taken (.writing msg writes) .header f.header s) :
    ∃ t, step codec streamID s .read = some t ∧
      if 0 < f.payload.length then At streamID taken (.writing msg writes)
        (.payload { f with payload := [] } f.payload.length) [] t
      else ∃ r, At streamID taken (.writing msg writes) r [] t := by
  have htake : f.header.take headerSize = f.header := List.take_of_length_le (header_length f).le
  have hdrop : f.header.drop headerSize = [] := List.drop_of_length_le (header_length f).le
  have hset := at_setPipe h []
  simp only [step, h.pipe, Option.bind_some, receive, h.receiver, header_length, le_refl, if_true,
    htake, hdrop, parseHeader_header hf]
  split_ifs with hl
  · exact ⟨_, rfl, hset.pipe, hset.sender, rfl, hset.taken⟩
  · exact ⟨_, rfl, at_deliver hset _⟩

variable (codec) in
lemma at_read_payload (h : At streamID taken (.writing msg writes)
    (.payload { f with payload := [] } f.payload.length) f.payload s) :
    ∃ t, step codec streamID s .read = some t ∧
      ∃ r, At streamID taken (.writing msg writes) r [] t := by
  simp only [step, h.pipe, Option.bind_some, receive, h.receiver, le_refl, if_true, List.take_length,
    List.drop_length]
  exact ⟨_, rfl, at_deliver (at_setPipe h []) f⟩

lemma exists_finished (hf : f.Wire) (h : At streamID taken (.writing msg f.writes) .header [] s) :
    ∃ actions t, run (step codec streamID) s actions = some t ∧ t.taken = taken ++ [msg] := by
  by_cases hl : 0 < f.payload.length
  -- header and payload are written apart, and each write waits until it is read
  · have hwrites : f.writes = [f.header, f.payload] := by
      simp only [Frame.writes, Nat.not_lt.mpr hf.2, if_false, hl, if_true]
    rw [hwrites] at h
    obtain ⟨t₁, h₁, ht₁⟩ := at_write codec h
    obtain ⟨t₂, h₂, ht₂⟩ := at_read_header codec hf ht₁
    rw [if_pos hl] at ht₂
    obtain ⟨t₃, h₃, ht₃⟩ := at_write codec ht₂
    obtain ⟨t₄, h₄, r, ht₄⟩ := at_read_payload codec ht₃
    obtain ⟨t₅, h₅, htaken⟩ := at_finish codec ht₄
    exact ⟨[.write, .read, .write, .read, .finish], t₅,
      by simp only [run_cons, run_nil, h₁, h₂, h₃, h₄, h₅, Option.bind_some], htaken⟩
  · have hwrites : f.writes = [f.header] := by
      simp only [Frame.writes, Nat.not_lt.mpr hf.2, if_false, hl]
    rw [hwrites] at h
    obtain ⟨t₁, h₁, ht₁⟩ := at_write codec h
    obtain ⟨t₂, h₂, ht₂⟩ := at_read_header codec hf ht₁
    rw [if_neg hl] at ht₂
    obtain ⟨r, ht₂⟩ := ht₂
    obtain ⟨t₃, h₃, htaken⟩ := at_finish codec ht₂
    exact ⟨[.write, .read, .finish], t₃,
      by simp only [run_cons, run_nil, h₁, h₂, h₃, Option.bind_some], htaken⟩

variable (codec) in
lemma exists_taken (h : At streamID taken .reading .header [] s) (hc : s.client = msg :: msgs) :
    ∃ actions t, run (step codec streamID) s actions = some t ∧ t.taken = taken ++ [msg] := by
  have hsend : step codec streamID s .send =
      some (takeMessage codec streamID { s with client := msgs } msg) := by
    simp only [step, h.sender, hc]
  cases hcomp : codec.compressPayload msg with
  | none =>
    refine ⟨[.send], _, by rw [run_cons, hsend]; rfl, ?_⟩
    simp only [takeMessage, hcomp, h.taken]
  | some compressed =>
    by_cases hl : maxPayload < compressed.length
    · refine ⟨[.send], _, by rw [run_cons, hsend]; rfl, ?_⟩
      simp only [takeMessage, hcomp, h.pipe, hl, if_true, h.taken]
    · have ht : At streamID taken
          (.writing msg (newDataFrame streamID compressed true).writes) .header []
          (takeMessage codec streamID { s with client := msgs } msg) := by
        simp only [takeMessage, hcomp, h.pipe, hl, if_false]
        exact ⟨h.pipe, rfl, h.receiver, h.taken⟩
      obtain ⟨actions, t, hrun, htaken⟩ :=
        exists_finished (newDataFrame_wire (Nat.le_of_not_lt hl)) ht
      exact ⟨.send :: actions, t, by rw [run_cons, hsend]; exact hrun, htaken⟩

end Loopback

section Relayed

lemma taken_nil (hs : Relayed codec agentID agent s) (hagent : agentConn s.mux agentID = some agent) :
    s.taken = [] := by
  obtain ⟨conn, frames, hconn, hout, _, hframes⟩ := hs.sent
  obtain rfl := Option.some.inj (hagent.symm.trans hconn)
  have hwire : frames.flatMap Frame.wireBytes = [] := List.self_eq_append_right.mp hout
  have hnil : frames = [] := flatMap_wireBytes_eq_nil.mp hwire
  simpa [hnil] using hframes.symm

/-- The handler relays what it should, in every run, if and only if the client sends no message. -/
theorem websocket_relayed_iff (codec : Codec) (sm : StreamMultiplexer Conn) (agentID : UInt64)
    (agent : Duplex) (tunnelID : Bytes) (msgs : List Bytes)
    (hagent : agentConn sm agentID = some agent) (hne : agentID ≠ sm.nextStreamID) :
    (∀ actions, Always (step codec sm.nextStreamID) (Relayed codec agentID agent)
      (init sm tunnelID msgs) actions) ↔ msgs = [] := by
  have hinit := (agentConn_init hne tunnelID msgs).trans hagent
  constructor
  · intro h
    cases msgs with
    | nil => rfl
    | cons msg msgs =>
      obtain ⟨actions, t, hrun, htaken⟩ := exists_taken codec
        ⟨pipe_init tunnelID (msg :: msgs), rfl, rfl, rfl⟩ rfl
      -- the message is done with, but no step has written to the agent
      have hrelayed := (h actions).last hrun
      have hnil := taken_nil hrelayed ((agentConn_run hne hrun).trans hinit)
      simp [htaken, init] at hnil
  · rintro rfl actions
    have halways : Always (step codec sm.nextStreamID)
        (fun s => Silent sm.nextStreamID s ∧ agentConn s.mux agentID = some agent)
        (init sm tunnelID []) actions :=
      always_invariant ⟨silent_init tunnelID, hinit⟩
        fun s a t h hstep => ⟨silent_step h.1 hstep, (agentConn_step hne hstep).trans h.2⟩
    exact halways.mono fun s h => relayed_of_silent h.1 h.2

def exampleAgent : Duplex := ⟨[], [], false⟩

def exampleMux : StreamMultiplexer Conn :=
  ((newStreamMultiplexer Conn).newStream (ascii "T") (.agent exampleAgent)).2

theorem websocket_relayed_silent : Always (step Codec.framing exampleMux.nextStreamID)
    (Relayed Codec.framing 1 exampleAgent) (init exampleMux (ascii "T") []) [.hangUp, .close] :=
  (websocket_relayed_iff Codec.framing exampleMux 1 exampleAgent (ascii "T") [] rfl (by decide)).mpr
    rfl [.hangUp, .close]

lemma delivered_nil (hs : Relayed codec agentID agent s) (hin : agent.inbound = []) :
    s.delivered = [] := by
  obtain ⟨conn, frames, _, hframes, hdelivered⟩ := hs.received
  rw [hin] at hframes
  obtain rfl := flatMap_wireBytes_eq_nil.mp (List.append_eq_nil_iff.mp hframes.symm).1
  apply List.eq_nil_iff_forall_not_mem.mpr
  intro msg hmsg
  obtain ⟨f, hf, _⟩ := hdelivered msg hmsg
  cases hf

theorem websocket_relayed_fails :
    Codec.framing.RoundTrip ∧
    (run (step Codec.framing exampleMux.nextStreamID) (init exampleMux (ascii "T") [ascii "hi"])
      [.send, .write, .read, .write, .read]).map (fun s => (s.delivered, agentConn s.mux 1)) =
        some ([ascii "hi"], some exampleAgent) ∧
    ¬ Always (step Codec.framing exampleMux.nextStreamID) (Relayed Codec.framing 1 exampleAgent)
      (init exampleMux (ascii "T") [ascii "hi"]) [.send, .write, .read, .write, .read] := by
  have hrun : (run (step Codec.framing exampleMux.nextStreamID)
      (init exampleMux (ascii "T") [ascii "hi"]) [.send, .write, .read, .write, .read]).map
        (fun s => (s.delivered, agentConn s.mux 1)) = some ([ascii "hi"], some exampleAgent) := by
    decide
  refine ⟨Codec.framing_roundTrip, hrun, fun h => ?_⟩
  obtain ⟨t, ht, hd⟩ := Option.map_eq_some_iff.mp hrun
  have hnil := delivered_nil (h.last ht) rfl
  rw [hnil] at hd
  cases hd

end Relayed

end OmniTun.DataPath.WebSocket
