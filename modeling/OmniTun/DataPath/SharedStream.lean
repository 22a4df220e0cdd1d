import OmniTun.DataPath.Requests
import OmniTun.Foundation.Pipelining

/-! Concurrent requests to one tunnel: their handlers share the tunnel's stream. -/

namespace OmniTun.DataPath.SharedStream

open OmniTun.Foundation OmniTun.Foundation.Transport OmniTun.Foundation.Transition
open OmniTun.Protocol OmniTun.Relay
open Pipelining (Own Tidy)

/-- `line` tells whose frames are under way. The bytes themselves are in the multiplexer. -/
structure State where
  line : Pipelining.State ℕ
  mux : StreamMultiplexer Duplex
  calls : ℕ → List WriterCall

inductive Action
  | forward (i : ℕ)
  | answer
  | receive (i : ℕ)

section

variable (codec : Codec) (streamID : UInt64) (request : ℕ → Table.RangeOrder Bytes × Request)
  (answer : Frame → WireFrame)

def sentFrame (i : ℕ) : Frame := newDataFrame streamID (payload codec (request i)) true

def init (sm : StreamMultiplexer Duplex) (tunnelID : Bytes) : State where
  line := Pipelining.init
  mux := sm.withConn streamID ⟨streamID, tunnelID, ⟨[], [], false⟩⟩ ⟨[], [], false⟩
  calls _ := []

def agentStep (sm : StreamMultiplexer Duplex) : Option (StreamMultiplexer Duplex) :=
  match sm.activeStreams.lookup streamID with
  | none => none
  | some sc =>
    match decodeFrame sc.conn.outbound with
    | (.error _, _) => none
    | (.ok f, rest) => some (sm.withConn streamID sc
        { sc.conn with inbound := sc.conn.inbound ++ (answer f).val.wireBytes, outbound := rest })

/-- The two halves of `handleHTTP`, each in one step, and the agent's turn. -/
def step (s : State) : Action → Option State
  | .forward i =>
    match requestFrame codec (request i).1 streamID (request i).2 with
    | .error call => (Pipelining.step s.line (.refuse i)).map fun line =>
        ⟨line, s.mux, Function.update s.calls i [call]⟩
    | .ok frame =>
      match s.mux.forwardFrame streamID frame with
      | (some _, mux) => (Pipelining.step s.line (.refuse i)).map fun line =>
          ⟨line, mux, Function.update s.calls i [agentUnreachable]⟩
      | (none, mux) => (Pipelining.step s.line (.send i)).map fun line => ⟨line, mux, s.calls⟩
  | .answer =>
    (Pipelining.step s.line .answer).bind fun line =>
      (agentStep streamID answer s.mux).map fun mux => ⟨line, mux, s.calls⟩
  | .receive i =>
    (Pipelining.step s.line (.receive i)).map fun line =>
      ⟨line, (s.mux.receive streamID).2,
        Function.update s.calls i (respond codec (s.mux.receive streamID).1)⟩

def Action.InTurn (s : State) : Action → Prop
  | .receive i => s.line.queue.head? = some i
  | _ => True

/-- Every handler answers its client with the response to its own request. -/
structure Delivered (s : State) : Prop where
  own : Own s.line
  calls : ∀ i, s.line.phase i = .answered i →
    s.calls i = respond codec (.ok (answer (sentFrame codec streamID request i)).val)

structure Wired (s : State) : Prop where
  tidy : Tidy s.line
  wire : ∀ i ∈ s.line.requests, (sentFrame codec streamID request i).Wire
  conn : ∃ sc, s.mux.activeStreams.lookup streamID = some sc ∧ sc.conn =
    ⟨s.line.responses.flatMap fun i => (answer (sentFrame codec streamID request i)).val.wireBytes,
      s.line.requests.flatMap fun i => (sentFrame codec streamID request i).wireBytes, false⟩

end

variable {codec : Codec} {streamID : UInt64} {request : ℕ → Table.RangeOrder Bytes × Request}
  {answer : Frame → WireFrame} {s t : State}

lemma wired_init (sm : StreamMultiplexer Duplex) (tunnelID : Bytes) :
    Wired codec streamID request answer (init streamID sm tunnelID) where
  tidy := Pipelining.tidy_init
  wire i h := by cases h
  conn := ⟨_, StreamMultiplexer.lookup_withConn _ _ _ _, rfl⟩

lemma delivered_init (sm : StreamMultiplexer Duplex) (tunnelID : Bytes) :
    Delivered codec streamID request answer (init streamID sm tunnelID) where
  own := Pipelining.own_init
  calls i h := by cases h

section Steps

variable {i : ℕ}

lemma sentFrame_of_ok {f : Frame}
    (h : requestFrame codec (request i).1 streamID (request i).2 = .ok f) :
    f = sentFrame codec streamID request i := by
  obtain ⟨p, hp, rfl⟩ := requestFrame_ok h
  rw [sentFrame, payload, hp, Option.getD_some]

lemma wired_forward (hw : Wired codec streamID request answer s)
    (h : step codec streamID request answer s (.forward i) = some t) :
    ∃ a, (a = .send i ∨ a = .refuse i) ∧ Pipelining.step s.line a = some t.line ∧
      (∀ j, j ≠ i → t.calls j = s.calls j) ∧
      (Tidy t.line → Wired codec streamID request answer t) := by
  obtain ⟨sc, hsc, hconn⟩ := hw.conn
  simp only [step] at h
  split at h
  · obtain ⟨line, hline, rfl⟩ := Option.map_eq_some_iff.mp h
    obtain ⟨_, rfl⟩ := Pipelining.step_refuse hline
    refine ⟨.refuse i, Or.inr rfl, hline, fun j hj => Function.update_of_ne hj _ _, fun ht => ?_⟩
    exact ⟨ht, hw.wire, sc, hsc, hconn⟩
  next f hf =>
    obtain rfl := sentFrame_of_ok hf
    have hc : sc.conn.closed = false := by rw [hconn]
    by_cases hl : (sentFrame codec streamID request i).payload.length ≤ maxPayload
    · rw [StreamMultiplexer.forwardFrame_duplex hsc hc hl] at h
      obtain ⟨line, hline, rfl⟩ := Option.map_eq_some_iff.mp h
      obtain ⟨_, rfl⟩ := Pipelining.step_send hline
      refine ⟨.send i, Or.inl rfl, hline, fun j _ => rfl, fun ht => ⟨ht, ?_, ?_⟩⟩
      · intro j hj
        rcases List.mem_append.mp hj with hj | hj
        · exact hw.wire j hj
        · obtain rfl := List.mem_singleton.mp hj
          exact newDataFrame_wire (by simpa [sentFrame] using hl)
      · refine ⟨_, StreamMultiplexer.lookup_withConn _ _ _ _, ?_⟩
        simp [hconn, Duplex.sent]
    · rw [StreamMultiplexer.forwardFrame_tooLarge hsc (Nat.lt_of_not_le hl)] at h
      obtain ⟨line, hline, rfl⟩ := Option.map_eq_some_iff.mp h
      obtain ⟨_, rfl⟩ := Pipelining.step_refuse hline
      refine ⟨.refuse i, Or.inr rfl, hline, fun j hj => Function.update_of_ne hj _ _, fun ht => ?_⟩
      exact ⟨ht, hw.wire, _, StreamMultiplexer.lookup_withConn _ _ _ _, hconn⟩

lemma agentStep_cons (hw : Wired codec streamID request answer s) {requests : List ℕ}
    (hr : s.line.requests = i :: requests) :
    ∃ mux sc, agentStep streamID answer s.mux = some mux ∧
      mux.activeStreams.lookup streamID = some sc ∧ sc.conn =
        ⟨(s.line.responses ++ [i]).flatMap fun i =>
            (answer (sentFrame codec streamID request i)).val.wireBytes,
          requests.flatMap fun i => (sentFrame codec streamID request i).wireBytes, false⟩ := by
  obtain ⟨sc, hsc, hconn⟩ := hw.conn
  have hout : decodeFrame sc.conn.outbound = (.ok (sentFrame codec streamID request i),
      requests.flatMap fun i => (sentFrame codec streamID request i).wireBytes) := by
    rw [hconn, hr]
    exact decodeFrame_wireBytes (hw.wire i (by simp [hr])) _
  let conn : Duplex := ⟨sc.conn.inbound ++
    (answer (sentFrame codec streamID request i)).val.wireBytes,
    requests.flatMap fun i => (sentFrame codec streamID request i).wireBytes, sc.conn.closed⟩
  refine ⟨s.mux.withConn streamID sc conn, { sc with conn := conn }, ?_,
    StreamMultiplexer.lookup_withConn _ _ _ _, ?_⟩
  · simp only [agentStep, hsc, hout]
    rfl
  · simp [conn, hconn]

lemma wired_answer (hw : Wired codec streamID request answer s)
    (h : step codec streamID request answer s .answer = some t) :
    Pipelining.step s.line .answer = some t.line ∧ t.calls = s.calls ∧
      (Tidy t.line → Wired codec streamID request answer t) := by
  obtain ⟨line, hline, hm⟩ := Option.bind_eq_some_iff.mp h
  obtain ⟨mux, hmux, rfl⟩ := Option.map_eq_some_iff.mp hm
  obtain ⟨i, requests, hr, rfl⟩ := Pipelining.step_answer hline
  obtain ⟨mux', sc, hagent, hsc, hconn⟩ := agentStep_cons hw hr
  obtain rfl := Option.some.inj (hmux.symm.trans hagent)
  refine ⟨hline, rfl, fun ht => ⟨ht, ?_, ?_⟩⟩
  · intro j hj
    exact hw.wire j (by rw [hr]; exact List.mem_cons_of_mem i hj)
  · exact ⟨sc, hsc, hconn⟩

lemma wired_receive (hw : Wired codec streamID request answer s)
    (h : step codec streamID request answer s (.receive i) = some t) :
    Pipelining.step s.line (.receive i) = some t.line ∧ (∀ j, j ≠ i → t.calls j = s.calls j) ∧
      (∀ owner, t.line.phase i = .answered owner →
        t.calls i = respond codec (.ok (answer (sentFrame codec streamID request owner)).val)) ∧
      (Tidy t.line → Wired codec streamID request answer t) := by
  obtain ⟨sc, hsc, hconn⟩ := hw.conn
  obtain ⟨line, hline, rfl⟩ := Option.map_eq_some_iff.mp h
  obtain ⟨owner, responses, hr, _, rfl⟩ := Pipelining.step_receive hline
  have hc : sc.conn.closed = false := by rw [hconn]
  have hin : sc.conn.inbound = (answer (sentFrame codec streamID request owner)).val.wireBytes ++
      responses.flatMap fun i => (answer (sentFrame codec streamID request i)).val.wireBytes := by
    rw [hconn, hr]
    rfl
  have hrec := StreamMultiplexer.receive_wireBytes hsc hc
    (answer (sentFrame codec streamID request owner)).property hin
  refine ⟨hline, fun j hj => Function.update_of_ne hj _ _, ?_, fun ht => ⟨ht, hw.wire, ?_⟩⟩
  · intro owner' ho
    obtain rfl : owner = owner' := by simpa using ho
    simp [hrec]
  · rw [hrec]
    refine ⟨_, StreamMultiplexer.lookup_withConn _ _ _ _, ?_⟩
    simp [hconn, Duplex.withInbound]

lemma delivered_step_iff {a : Action} (hs : Delivered codec streamID request answer s)
    (hw : Wired codec streamID request answer s)
    (h : step codec streamID request answer s a = some t) :
    (Delivered codec streamID request answer t ↔ a.InTurn s) ∧
      (Delivered codec streamID request answer t → Wired codec streamID request answer t) := by
  cases a with
  -- each step is one of the line, which decides who gets whose response
  | forward i =>
    obtain ⟨a, ha, hline, hcalls, hwired⟩ := wired_forward hw h
    obtain ⟨hown, htidy⟩ := Pipelining.own_step_iff hs.own hw.tidy hline
    have hphase : ∀ j, t.line.phase j = .answered j → j ≠ i ∧ s.line.phase j = .answered j := by
      intro j hj
      rcases ha with rfl | rfl
      · obtain ⟨_, ht⟩ := Pipelining.step_send hline
        rw [ht] at hj
        by_cases hji : j = i <;> simp_all
      · obtain ⟨_, ht⟩ := Pipelining.step_refuse hline
        rw [ht] at hj
        by_cases hji : j = i <;> simp_all
    have ht : Own t.line := hown.mpr (by rcases ha with rfl | rfl <;> trivial)
    refine ⟨iff_of_true ⟨ht, fun j hj => ?_⟩ trivial, fun _ => hwired (htidy ht)⟩
    obtain ⟨hji, hj'⟩ := hphase j hj
    rw [hcalls j hji]
    exact hs.calls j hj'
  | answer =>
    obtain ⟨hline, hcalls, hwired⟩ := wired_answer hw h
    obtain ⟨hown, htidy⟩ := Pipelining.own_step_iff hs.own hw.tidy hline
    obtain ⟨i, requests, _, hl⟩ := Pipelining.step_answer hline
    have ht : Own t.line := hown.mpr trivial
    refine ⟨iff_of_true ⟨ht, fun j hj => ?_⟩ trivial, fun _ => hwired (htidy ht)⟩
    rw [hl] at hj
    rw [hcalls]
    exact hs.calls j hj
  | receive i =>
    obtain ⟨hline, hcalls, hcall, hwired⟩ := wired_receive hw h
    obtain ⟨hown, htidy⟩ := Pipelining.own_step_iff hs.own hw.tidy hline
    obtain ⟨owner, responses, _, _, hl⟩ := Pipelining.step_receive hline
    refine ⟨⟨fun ht => hown.mp ht.own, fun hturn => ⟨hown.mpr hturn, fun j hj => ?_⟩⟩,
      fun ht => hwired (htidy ht.own)⟩
    by_cases hji : j = i
    · subst hji
      exact hcall j hj
    · rw [hcalls j hji]
      rw [hl] at hj
      exact hs.calls j (by simpa [hji] using hj)

lemma delivered_step {a : Action} (hs : Delivered codec streamID request answer s)
    (hw : Wired codec streamID request answer s)
    (h : step codec streamID request answer s a = some t) (ha : a.InTurn s) :
    Delivered codec streamID request answer t ∧ Wired codec streamID request answer t := by
  obtain ⟨hd, hwired⟩ := delivered_step_iff hs hw h
  exact ⟨hd.mpr ha, hwired (hd.mpr ha)⟩

end Steps

section Progress

variable {i : ℕ}

lemma exists_forward (hw : Wired codec streamID request answer s) (hi : s.line.phase i = .ready)
    (hf : requestFrame codec (request i).1 streamID (request i).2 =
      .ok (sentFrame codec streamID request i))
    (hl : (sentFrame codec streamID request i).payload.length ≤ maxPayload) :
    ∃ mux, step codec streamID request answer s (.forward i) =
      some ⟨⟨Function.update s.line.phase i .waiting, s.line.requests ++ [i], s.line.responses,
        s.line.queue ++ [i]⟩, mux, s.calls⟩ := by
  obtain ⟨sc, hsc, hconn⟩ := hw.conn
  have hc : sc.conn.closed = false := by rw [hconn]
  refine ⟨s.mux.withConn streamID sc
    (sc.conn.sent (sentFrame codec streamID request i).wireBytes), ?_⟩
  simp only [step, hf, StreamMultiplexer.forwardFrame_duplex hsc hc hl, Pipelining.step, hi, if_true]
  rfl

lemma exists_answer (hw : Wired codec streamID request answer s) {requests : List ℕ}
    (hr : s.line.requests = i :: requests) :
    ∃ mux, step codec streamID request answer s .answer =
      some ⟨⟨s.line.phase, requests, s.line.responses ++ [i], s.line.queue⟩, mux, s.calls⟩ := by
  obtain ⟨mux, _, hagent, _⟩ := agentStep_cons hw hr
  refine ⟨mux, ?_⟩
  simp only [step, Pipelining.step, hr, Option.bind_some, hagent]
  rfl

end Progress

lemma handleHTTP_of_steps {u : State} {i : ℕ}
    (h : step codec streamID request answer s (.forward i) = some t)
    (h' : step codec streamID request answer t (.receive i) = some u) :
    handleHTTP codec (request i).1 s.mux streamID (request i).2 = (u.calls i, u.mux) := by
  obtain ⟨line', hline', rfl⟩ := Option.map_eq_some_iff.mp h'
  obtain ⟨_, _, _, hi, _⟩ := Pipelining.step_receive hline'
  cases hframe : requestFrame codec (request i).1 streamID (request i).2 with
  | error call =>
    simp only [step, hframe] at h
    obtain ⟨line, hline, rfl⟩ := Option.map_eq_some_iff.mp h
    obtain ⟨_, rfl⟩ := Pipelining.step_refuse hline
    simp at hi
  | ok frame =>
    rcases hfwd : s.mux.forwardFrame streamID frame with ⟨_ | err, mux⟩
    · simp only [step, hframe, hfwd] at h
      obtain ⟨line, hline, rfl⟩ := Option.map_eq_some_iff.mp h
      simp [handleHTTP, hframe, hfwd]
    · simp only [step, hframe, hfwd] at h
      obtain ⟨line, hline, rfl⟩ := Option.map_eq_some_iff.mp h
      obtain ⟨_, rfl⟩ := Pipelining.step_refuse hline
      simp at hi

variable (codec streamID request answer)

/-- Throughout a run every handler answers its client with the response to its own request, if and
only if the handlers receive in the order they forwarded in. -/
theorem responses_own_iff (sm : StreamMultiplexer Duplex) (tunnelID : Bytes)
    (actions : List Action) :
    Always (step codec streamID request answer) (Delivered codec streamID request answer)
        (init streamID sm tunnelID) actions ↔
      Guarded (step codec streamID request answer) (fun s a => a.InTurn s)
        (init streamID sm tunnelID) actions :=
  always_iff_guarded (delivered_init sm tunnelID) (wired_init sm tunnelID)
    fun _ _ _ hs hw h => delivered_step_iff hs hw h

def exampleClients (i : ℕ) : Table.RangeOrder Bytes × Request :=
  (.byCode, getRequest (if i = 0 then ascii "a" else ascii "b"))

def echo (f : Frame) : WireFrame :=
  if h : f.Wire then ⟨f, h⟩ else ⟨newDataFrame 1 [] false, by decide⟩

lemma exampleClients_frame (i : ℕ) :
    requestFrame Codec.framing (exampleClients i).1 1 (exampleClients i).2 =
        .ok (sentFrame Codec.framing 1 exampleClients i) ∧
      (sentFrame Codec.framing 1 exampleClients i).payload.length ≤ maxPayload := by
  have hne : (if i = 0 then ascii "a" else ascii "b") ≠ [] := by split_ifs <;> decide
  have hlen : (if i = 0 then ascii "a" else ascii "b").length = 1 := by split_ifs <;> rfl
  have hp : payload Codec.framing (exampleClients i) =
      Codec.magic ++ serialized .byCode (exampleClients i).2 := by
    rw [payload, exampleClients, compressPayload_framing _ hne, Option.getD_some]
  constructor
  · rw [sentFrame, hp]
    exact requestFrame_framing _ _ hne
  · rw [sentFrame, newDataFrame_payload, hp, List.length_append]
    simp only [exampleClients, serialized_getRequest_length _ hne, hlen]
    decide

theorem responses_own_fails :
    ¬ Always (step Codec.framing 1 exampleClients echo) (Delivered Codec.framing 1 exampleClients echo)
      (init 1 (newStreamMultiplexer Duplex) (ascii "T"))
      [.forward 0, .forward 1, .answer, .answer, .receive 1] := by
  intro h
  let sm := newStreamMultiplexer Duplex
  have hd₀ : Delivered Codec.framing 1 exampleClients echo (init 1 sm (ascii "T")) :=
    delivered_init sm (ascii "T")
  have hw₀ : Wired Codec.framing 1 exampleClients echo (init 1 sm (ascii "T")) :=
    wired_init sm (ascii "T")
  have hf := exampleClients_frame
  obtain ⟨m₁, h₁⟩ := exists_forward hw₀ rfl (hf 0).1 (hf 0).2
  obtain ⟨hd₁, hw₁⟩ := delivered_step hd₀ hw₀ h₁ trivial
  obtain ⟨m₂, h₂⟩ := exists_forward (i := 1) hw₁ (by simp [init, Pipelining.init]) (hf 1).1 (hf 1).2
  obtain ⟨hd₂, hw₂⟩ := delivered_step hd₁ hw₁ h₂ trivial
  obtain ⟨m₃, h₃⟩ := exists_answer hw₂ rfl
  obtain ⟨hd₃, hw₃⟩ := delivered_step hd₂ hw₂ h₃ trivial
  obtain ⟨m₄, h₄⟩ := exists_answer hw₃ rfl
  have hd₅ := ((((h.2 _ h₁).2 _ h₂).2 _ h₃).2 _ h₄).2 _ rfl
  have hown := hd₅.own.own 1 0 (by simp)
  cases hown

end OmniTun.DataPath.SharedStream
