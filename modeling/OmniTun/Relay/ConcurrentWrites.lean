import OmniTun.Foundation.Interleaving
import OmniTun.Relay.Stream

/-! Concurrent senders on one stream connection: the multiplexer's lock covers the lookup of the
connection, not the writes of `encodeFrame`. -/

namespace OmniTun.Relay.ConcurrentWrites

open OmniTun.Foundation OmniTun.Foundation.Transport OmniTun.Foundation.Transition OmniTun.Protocol

inductive SendCall
  | forward (payload : Bytes)
  | forwardFrame (frame : Frame)

def SendCall.frame (streamID : UInt64) : SendCall → Frame
  | .forward payload => newDataFrame streamID payload true
  | .forwardFrame frame => frame

def SendCall.run {κ : Type*} [Writer κ] (sm : StreamMultiplexer κ) (streamID : UInt64) :
    SendCall → Option StreamError × StreamMultiplexer κ
  | .forward payload => sm.forward streamID payload
  | .forwardFrame frame => sm.forwardFrame streamID frame

variable {ι : Type*} [DecidableEq ι] (streamID : UInt64) (call : ι → SendCall)

def blocks (i : ι) : List Bytes := ((call i).frame streamID).writes

def step : Interleaving.State ι UInt8 → ι → Option (Interleaving.State ι UInt8) :=
  Interleaving.step (blocks streamID call)

def start : Interleaving.State ι UInt8 := Interleaving.init (blocks streamID call)

/-- No other call is between the writes of its header and of its payload. -/
def Alone (s : Interleaving.State ι UInt8) (i : ι) : Prop :=
  Interleaving.Alone (blocks streamID call) s i

instance [Fintype ι] (s : Interleaving.State ι UInt8) (i : ι) : Decidable (Alone streamID call s i) :=
  inferInstanceAs (Decidable (Interleaving.Alone _ s i))

def Idle (s : Interleaving.State ι UInt8) : Prop :=
  ∀ i, ¬ Interleaving.Midway (blocks streamID call) s i

/-- What reached the peer decodes to the frames of the completed calls, in some order. -/
def Intact (s : Interleaving.State ι UInt8) : Prop :=
  ∃ order : List ι, order.Nodup ∧
    (∀ i, i ∈ order ↔ s.pending i = [] ∧ ((call i).frame streamID).payload.length ≤ maxPayload) ∧
    decodeStream order.length s.wire =
      (order.map fun i => .ok ((call i).frame streamID), [])

omit [DecidableEq ι] in
lemma run_alone {κ : Type*} [ReliableWriter κ] {sm : StreamMultiplexer κ} {sc : StreamConnection κ}
    {i : ι} (hsc : sm.activeStreams.lookup streamID = some sc)
    (hl : ((call i).frame streamID).payload.length ≤ maxPayload) :
    (call i).run sm streamID = (none, sm.withConn streamID sc
      ((blocks streamID call i).foldl (fun w bs => (write w bs).2) sc.conn)) := by
  cases hc : call i with
  | forward payload =>
    simp only [hc, SendCall.frame] at hl
    simp [SendCall.run, StreamMultiplexer.forward, StreamMultiplexer.forwardFrame, hsc,
      encodeFrame_writes _ hl, blocks, hc, SendCall.frame]
  | forwardFrame frame =>
    simp only [hc, SendCall.frame] at hl
    simp [SendCall.run, StreamMultiplexer.forwardFrame, hsc, encodeFrame_writes _ hl, blocks, hc,
      SendCall.frame]

omit [DecidableEq ι] in
lemma flatMap_blocks {order : List ι}
    (h : ∀ i ∈ order, ((call i).frame streamID).payload.length ≤ maxPayload) :
    (order.flatMap fun i => (blocks streamID call i).flatten) =
      (order.map fun i => (call i).frame streamID).flatMap Frame.wireBytes := by
  rw [List.flatMap_map]
  apply List.flatMap_congr
  intro i hi
  exact writes_flatten (h i hi)

/-- When every call writes its header and payload without another call's write between them, the
stream stays in step, in every state of the run in which no call is half done. -/
theorem wire_integrity (hver : ∀ i, ((call i).frame streamID).version = frameVersion)
    (as : List ι) {t : Interleaving.State ι UInt8}
    (hg : Guarded (step streamID call) (Alone streamID call) (start streamID call) as)
    (hr : run (step streamID call) (start streamID call) as = some t)
    (hn : Idle streamID call t) : Intact streamID call t := by
  obtain ⟨hnodup, hmem, hwire⟩ := Interleaving.guarded_wire hg hr hn
  have hfit : ∀ i, i ∈ t.started ↔
      t.pending i = [] ∧ ((call i).frame streamID).payload.length ≤ maxPayload := by
    intro i
    rw [hmem, blocks, writes_ne_nil]
  refine ⟨t.started, hnodup, hfit, ?_⟩
  have hw := flatMap_blocks streamID call fun i hi => ((hfit i).mp hi).2
  have hv : ∀ f ∈ t.started.map fun i => (call i).frame streamID, f.Wire := by
    intro f hf
    obtain ⟨i, hi, rfl⟩ := List.mem_map.mp hf
    exact ⟨hver i, ((hfit i).mp hi).2⟩
  have hd := decodeStream_wireBytes hv []
  rw [List.append_nil, List.length_map, List.map_map] at hd
  rw [hwire, hw]
  exact hd

def twoCalls (b : Bool) : SendCall := .forward [if b then 2 else 1]

theorem wire_integrity_in_turn : ∃ t : Interleaving.State Bool UInt8,
    run (step 1 twoCalls) (start 1 twoCalls) [false, false, true, true] = some t ∧
      Intact 1 twoCalls t :=
  ⟨_, rfl, wire_integrity 1 twoCalls (by decide) [false, false, true, true] (by decide) rfl
    (by intro i; cases i <;> decide)⟩

theorem wire_integrity_fails : ∃ t : Interleaving.State Bool UInt8,
    run (step 1 twoCalls) (start 1 twoCalls) [false, true, false, true] = some t ∧
      (∀ i, t.pending i = []) ∧ ¬ Intact 1 twoCalls t := by
  -- the peer takes the first byte of the second header for the first payload
  refine ⟨_, rfl, by intro i; cases i <;> rfl, ?_⟩
  rintro ⟨order, -, hmem, hd⟩
  cases order with
  | nil =>
    have hf := (hmem false).mpr ⟨rfl, by decide⟩
    simp at hf
  | cons i order =>
    have hi := congrArg (fun p => p.1.head?) hd
    simp only [List.length_cons, decodeStream_head, List.map_cons, List.head?_cons] at hi
    cases i <;> exact absurd hi (by decide)

end OmniTun.Relay.ConcurrentWrites
