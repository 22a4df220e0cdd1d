import OmniTun.Foundation.Transition
import OmniTun.Relay.SharedConnections

/-! The multiplexer's table over runs of its operations: the identifiers it hands out, the streams
that are open, and what closing one of them changes. -/

namespace OmniTun.Relay.StreamTable

open OmniTun.Foundation OmniTun.Foundation.Transport OmniTun.Foundation.Transition OmniTun.Protocol

inductive Op (ι : Type*)
  | newStream (tunnelID : Bytes) (conn : ι)
  | closeStream (streamID : UInt64)
  | forward (streamID : UInt64) (payload : Bytes)
  | forwardFrame (streamID : UInt64) (frame : Frame)
  | receive (streamID : UInt64)

inductive Result
  | stream (streamID : UInt64)
  | closed
  | forwarded (err : Option StreamError)
  | received (res : Except StreamError Frame)

namespace Op

variable {ι : Type*}

def conn : Op ι → Option ι
  | newStream _ conn => some conn
  | _ => none

def streamID : Op ι → Option UInt64
  | newStream .. => none
  | closeStream id | forward id _ | forwardFrame id _ | receive id => some id

end Op

abbrev Event (ι : Type*) := Op ι × Result

def created {ι : Type*} (events : List (Event ι)) : List UInt64 :=
  events.filterMap fun
    | (_, .stream id) => some id
    | _ => none

def connections {ι : Type*} (ops : List (Op ι)) : List ι := ops.filterMap Op.conn

def opened {ι : Type*} (ids : List UInt64) : Event ι → List UInt64
  | (_, .stream id) => ids ++ [id]
  | (.closeStream id, _) => ids.filter (· ≠ id)
  | _ => ids

def openStreams {ι : Type*} (events : List (Event ι)) : List UInt64 := events.foldl opened []

structure Trace (ι κ : Type*) where
  events : List (Event ι)
  state : SharedMux ι κ

def start {ι κ : Type*} (conns : ι → κ) : Trace ι κ := ⟨[], newStreamMultiplexer ι, conns⟩

section Apply

variable {ι κ : Type*} [DecidableEq ι] [Reader κ] [Writer κ] [Closer κ]

def apply (s : SharedMux ι κ) : Op ι → Result × SharedMux ι κ
  | .newStream tunnelID conn =>
    (.stream (s.newStream tunnelID conn).1.streamID, (s.newStream tunnelID conn).2)
  | .closeStream id => (.closed, s.closeStream id)
  | .forward id payload => (.forwarded (s.forward id payload).1, (s.forward id payload).2)
  | .forwardFrame id frame => (.forwarded (s.forwardFrame id frame).1, (s.forwardFrame id frame).2)
  | .receive id => (.received (s.receive id).1, (s.receive id).2)

def step (t : Trace ι κ) (op : Op ι) : Option (Trace ι κ) :=
  some ⟨t.events ++ [(op, (apply t.state op).1)], (apply t.state op).2⟩

def results (s : SharedMux ι κ) : List (Op ι) → List Result
  | [] => []
  | op :: ops => (apply s op).1 :: results (apply s op).2 ops

end Apply

/-! Identifiers and open streams. -/

section Events

variable {ι : Type*} (events : List (Event ι)) (op : Op ι)

lemma created_stream (id : UInt64) :
    created (events ++ [(op, .stream id)]) = created events ++ [id] := by
  simp [created]

lemma created_other {res : Result} (h : ∀ id, res ≠ .stream id) :
    created (events ++ [(op, res)]) = created events := by
  cases res with
  | stream id => exact absurd rfl (h id)
  | closed => simp [created]
  | forwarded err => simp [created]
  | received res => simp [created]

lemma openStreams_concat (e : Event ι) :
    openStreams (events ++ [e]) = opened (openStreams events) e := by
  simp [openStreams]

end Events

def ident (n : ℕ) : UInt64 := UInt64.ofNat (n + 1)

lemma ident_toNat {n : ℕ} (h : n < 2 ^ 64 - 1) : (ident n).toNat = n + 1 := by
  rw [ident, UInt64.toNat_ofNat', Nat.mod_eq_of_lt (by omega)]

lemma ident_inj {m n : ℕ} (hm : m < 2 ^ 64 - 1) (hn : n < 2 ^ 64 - 1) (h : ident m = ident n) :
    m = n := by
  have hnat := congrArg UInt64.toNat h
  rw [ident_toNat hm, ident_toNat hn] at hnat
  omega

lemma ident_ne_zero {n : ℕ} (h : n < 2 ^ 64 - 1) : ident n ≠ 0 := by
  intro hz
  have hnat := congrArg UInt64.toNat hz
  rw [ident_toNat h] at hnat
  simp at hnat

lemma idents_nodup {n : ℕ} (h : n ≤ 2 ^ 64 - 1) : ((List.range n).map ident).Nodup := by
  apply List.Nodup.map_on _ List.nodup_range
  intro i hi j hj he
  have hi' := List.mem_range.mp hi
  have hj' := List.mem_range.mp hj
  exact ident_inj (by omega) (by omega) he

structure Sound {ι κ : Type*} (t : Trace ι κ) : Prop where
  created_eq : created t.events = (List.range (created t.events).length).map ident
  next : t.state.mux.nextStreamID = ident (created t.events).length
  mem_open : ∀ id, id ∈ openStreams t.events ↔ t.state.mux.activeStreams.lookup id ≠ none
  nodup_open : (openStreams t.events).Nodup
  open_created : ∀ id ∈ openStreams t.events, id ∈ created t.events
  entry : ∀ id sc, t.state.mux.activeStreams.lookup id = some sc →
    (Op.newStream sc.tunnelID sc.conn, Result.stream id) ∈ t.events

section Invariant

variable {ι κ : Type*} {t : Trace ι κ} {op : Op ι} {s : SharedMux ι κ}

lemma sound_start (conns : ι → κ) : Sound (start conns) where
  created_eq := rfl
  next := rfl
  mem_open id := by simp [start, newStreamMultiplexer, openStreams]
  nodup_open := List.nodup_nil
  open_created id h := by cases h
  entry id sc h := by cases h

lemma fresh (h : Sound t) (hn : (created t.events).length < 2 ^ 64 - 1) :
    ident (created t.events).length ∉ created t.events := by
  intro hm
  have hall : ∀ id ∈ created t.events, ∃ i < (created t.events).length, ident i = id := by
    rw [h.created_eq]
    simp
  obtain ⟨i, hi, he⟩ := hall _ hm
  have := ident_inj (by omega) hn he
  omega

lemma sound_newStream (h : Sound t) (hn : (created t.events).length < 2 ^ 64 - 1)
    (tunnelID : Bytes) (conn : ι) :
    Sound ⟨t.events ++ [(.newStream tunnelID conn,
      .stream (t.state.newStream tunnelID conn).1.streamID)],
      (t.state.newStream tunnelID conn).2⟩ := by
  have hid : (t.state.newStream tunnelID conn).1.streamID = ident (created t.events).length :=
    h.next
  have hfresh := fresh h hn
  have hopen : ident (created t.events).length ∉ openStreams t.events :=
    fun hm => hfresh (h.open_created _ hm)
  rw [hid]
  refine ⟨?_, ?_, fun id => ?_, ?_, fun id hm => ?_, fun id sc hsc => ?_⟩
  · rw [created_stream, List.length_append, List.length_singleton, List.range_succ, List.map_append,
      List.map_singleton, ← h.created_eq]
  · show t.state.mux.nextStreamID + 1 = _
    rw [created_stream, List.length_append, List.length_singleton, h.next]
    exact (UInt64.ofNat_add _ 1).symm
  · rw [openStreams_concat, opened, List.mem_append, List.mem_singleton, h.mem_open,
      SharedMux.lookup_newStream, h.next]
    by_cases hid : id = ident (created t.events).length
    · simp [hid]
    · simp [hid]
  · rw [openStreams_concat, opened]
    exact List.nodup_append_comm.mp (List.nodup_cons.mpr ⟨hopen, h.nodup_open⟩)
  · rw [openStreams_concat, opened, List.mem_append] at hm
    rw [created_stream, List.mem_append]
    exact hm.imp_left (h.open_created id)
  · rw [SharedMux.lookup_newStream, h.next] at hsc
    rw [List.mem_append]
    split_ifs at hsc with he
    · obtain rfl := Option.some.inj hsc
      exact .inr (by simp [he])
    · exact .inl (h.entry id sc hsc)

lemma sound_closeStream [DecidableEq ι] [Closer κ] (h : Sound t) (id : UInt64) :
    Sound ⟨t.events ++ [(.closeStream id, .closed)], t.state.closeStream id⟩ := by
  have hcreated : created (t.events ++ [(Op.closeStream id, Result.closed)]) = created t.events :=
    created_other _ _ (by simp)
  have hmem : ∀ id', id' ∈ openStreams (t.events ++ [(.closeStream id, .closed)]) ↔
      id' ∈ openStreams t.events ∧ id' ≠ id := by
    intro id'
    simp [openStreams_concat, opened]
  refine ⟨?_, ?_, fun id' => ?_, ?_, fun id' hm => ?_, fun id' sc hsc => ?_⟩
  · rw [hcreated]
    exact h.created_eq
  · rw [hcreated]
    exact SharedMux.closeStream_next.trans h.next
  · rw [hmem, h.mem_open, SharedMux.lookup_closeStream]
    by_cases he : id' = id
    · simp [he]
    · simp [he]
  · rw [openStreams_concat]
    exact h.nodup_open.filter _
  · rw [hcreated]
    exact h.open_created id' ((hmem id').mp hm).1
  · rw [SharedMux.lookup_closeStream] at hsc
    split_ifs at hsc
    exact List.mem_append_left _ (h.entry id' sc hsc)

lemma sound_other (h : Sound t) (hmux : s.mux = t.state.mux) {res : Result}
    (hres : ∀ id, res ≠ .stream id) (hop : ∀ id, op ≠ .closeStream id) :
    Sound ⟨t.events ++ [(op, res)], s⟩ := by
  have hcreated : created (t.events ++ [(op, res)]) = created t.events := created_other _ _ hres
  have hopen : openStreams (t.events ++ [(op, res)]) = openStreams t.events := by
    rw [openStreams_concat]
    cases res with
    | stream id => exact absurd rfl (hres id)
    | closed | forwarded | received =>
      cases op with
      | closeStream id => exact absurd rfl (hop id)
      | newStream | forward | forwardFrame | receive => rfl
  refine ⟨?_, ?_, fun id => ?_, ?_, fun id hm => ?_, fun id sc hsc => ?_⟩
  · rw [hcreated]
    exact h.created_eq
  · rw [hcreated, hmux]
    exact h.next
  · rw [hopen, hmux]
    exact h.mem_open id
  · rw [hopen]
    exact h.nodup_open
  · rw [hcreated]
    exact h.open_created id (hopen ▸ hm)
  · rw [hmux] at hsc
    exact List.mem_append_left _ (h.entry id sc hsc)

variable [DecidableEq ι] [Reader κ] [Writer κ] [Closer κ]

lemma sound_step (h : Sound t) {t' : Trace ι κ} (ht : step t op = some t')
    (hn : (created t'.events).length < 2 ^ 64 - 1) : Sound t' := by
  obtain rfl := Option.some.inj ht
  cases op with
  | newStream tunnelID conn =>
    apply sound_newStream h
    have hlen := congrArg List.length
      (created_stream t.events (.newStream tunnelID conn) t.state.mux.nextStreamID)
    rw [List.length_append, List.length_singleton] at hlen
    have hlt : (created (t.events ++ [(Op.newStream tunnelID conn,
      Result.stream t.state.mux.nextStreamID)])).length < 2 ^ 64 - 1 := hn
    omega
  | closeStream id => exact sound_closeStream h id
  | forward id payload =>
    exact sound_other h (SharedMux.forwardFrame_mux _) (by simp [apply]) (by simp)
  | forwardFrame id frame =>
    exact sound_other h (SharedMux.forwardFrame_mux frame) (by simp [apply]) (by simp)
  | receive id =>
    exact sound_other h SharedMux.receive_mux (by simp [apply]) (by simp)

lemma created_mono {t' : Trace ι κ} (ht : step t op = some t') :
    (created t.events).length ≤ (created t'.events).length := by
  obtain rfl := Option.some.inj ht
  simp [created, List.filterMap_append]

lemma sound_run {conns : ι → κ} {ops : List (Op ι)} (hrun : run step (start conns) ops = some t)
    (hn : (created t.events).length < 2 ^ 64 - 1) : Sound t := by
  have hinv : (fun t : Trace ι κ => (created t.events).length < 2 ^ 64 - 1 → Sound t) t := by
    apply run_invariant (fun _ => sound_start conns) hrun
    intro u op v hu huv hv
    exact sound_step (hu (lt_of_le_of_lt (created_mono huv) hv)) huv hv
  exact hinv hn

lemma events_run {t' : Trace ι κ} {ops : List (Op ι)} (hrun : run step t ops = some t') :
    t'.events.map Prod.fst = t.events.map Prod.fst ++ ops := by
  induction ops generalizing t with
  | nil =>
    obtain rfl := Option.some.inj hrun
    simp
  | cons op ops ih =>
    rw [run_cons, step, Option.bind_some] at hrun
    rw [ih hrun]
    simp

end Invariant

/-! What closing a stream leaves alone. -/

structure Beside {ι κ : Type*} (id : UInt64) (conn : ι) (s s' : SharedMux ι κ) : Prop where
  next : s'.mux.nextStreamID = s.mux.nextStreamID
  active : ∀ id', id' ≠ id →
    s'.mux.activeStreams.lookup id' = s.mux.activeStreams.lookup id'
  conns : ∀ c, c ≠ conn → s'.conns c = s.conns c
  apart : ∀ id' sc, id' ≠ id → s.mux.activeStreams.lookup id' = some sc → sc.conn ≠ conn

section Beside

variable {ι κ : Type*} {id id' : UInt64} {conn conn' : ι} {s s' : SharedMux ι κ}

lemma Beside.newStream (h : Beside id conn s s') (tunnelID : Bytes) (hne : conn' ≠ conn) :
    (s'.newStream tunnelID conn').1 = (s.newStream tunnelID conn').1 ∧
      Beside id conn (s.newStream tunnelID conn').2 (s'.newStream tunnelID conn').2 := by
  refine ⟨?_, ⟨?_, fun i hi => ?_, h.conns, fun i sc hi hsc => ?_⟩⟩
  · simp [SharedMux.newStream, StreamMultiplexer.newStream, h.next]
  · exact congrArg (· + 1) h.next
  · rw [SharedMux.lookup_newStream, SharedMux.lookup_newStream, h.next, h.active i hi]
  · rw [SharedMux.lookup_newStream] at hsc
    split_ifs at hsc
    · obtain rfl := Option.some.inj hsc
      exact hne
    · exact h.apart i sc hi hsc

lemma Beside.remove (h : Beside id conn s s') (i : UInt64) :
    Beside id conn (s.remove i) (s'.remove i) := by
  refine ⟨h.next, fun i' hi' => ?_, h.conns, fun i' sc hi' hsc => ?_⟩
  · rw [SharedMux.lookup_remove, SharedMux.lookup_remove, h.active i' hi']
  · rw [SharedMux.lookup_remove] at hsc
    split_ifs at hsc
    exact h.apart i' sc hi' hsc

lemma Beside.found (h : Beside id conn s s') (hid : id' ≠ id) :
    (s.mux.activeStreams.lookup id' = none ∧ s'.mux.activeStreams.lookup id' = none) ∨
      ∃ sc, s.mux.activeStreams.lookup id' = some sc ∧
        s'.mux.activeStreams.lookup id' = some sc ∧ s'.conns sc.conn = s.conns sc.conn := by
  have hactive := h.active id' hid
  cases hl : s.mux.activeStreams.lookup id' with
  | none => exact .inl ⟨rfl, hactive.trans hl⟩
  | some sc => exact .inr ⟨sc, rfl, hactive.trans hl, h.conns sc.conn (h.apart id' sc hid hl)⟩

variable [DecidableEq ι]

lemma Beside.setConn (h : Beside id conn s s') (c : ι) (k : κ) :
    Beside id conn (s.setConn c k) (s'.setConn c k) := by
  refine ⟨h.next, h.active, fun c' hc' => ?_, h.apart⟩
  simp only [SharedMux.setConn, Function.update_apply]
  split_ifs
  · rfl
  · exact h.conns c' hc'

lemma Beside.forwardFrame [Writer κ] (h : Beside id conn s s') (hid : id' ≠ id) (frame : Frame) :
    (s'.forwardFrame id' frame).1 = (s.forwardFrame id' frame).1 ∧
      Beside id conn (s.forwardFrame id' frame).2 (s'.forwardFrame id' frame).2 := by
  rcases h.found hid with ⟨hl, hl'⟩ | ⟨sc, hl, hl', hconn⟩
  · rw [SharedMux.forwardFrame_none hl, SharedMux.forwardFrame_none hl']
    exact ⟨rfl, h⟩
  · rw [SharedMux.forwardFrame_some hl, SharedMux.forwardFrame_some hl', hconn]
    exact ⟨rfl, h.setConn _ _⟩

lemma Beside.receive [Reader κ] (h : Beside id conn s s') (hid : id' ≠ id) :
    (s'.receive id').1 = (s.receive id').1 ∧
      Beside id conn (s.receive id').2 (s'.receive id').2 := by
  rcases h.found hid with ⟨hl, hl'⟩ | ⟨sc, hl, hl', hconn⟩
  · rw [SharedMux.receive_none hl, SharedMux.receive_none hl']
    exact ⟨rfl, h⟩
  · rw [SharedMux.receive_some hl, SharedMux.receive_some hl', hconn]
    exact ⟨rfl, h.setConn _ _⟩

lemma Beside.closeStream [Closer κ] (h : Beside id conn s s') (hid : id' ≠ id) :
    Beside id conn (s.closeStream id') (s'.closeStream id') := by
  rcases h.found hid with ⟨hl, hl'⟩ | ⟨sc, hl, hl', hconn⟩
  · rw [SharedMux.closeStream_none hl, SharedMux.closeStream_none hl']
    exact h
  · rw [SharedMux.closeStream_some hl, SharedMux.closeStream_some hl', hconn]
    exact (h.setConn _ _).remove id'

lemma beside_closeStream [Closer κ] {sc : StreamConnection ι}
    (hsc : s.mux.activeStreams.lookup id = some sc)
    (hown : ∀ id' sc', id' ≠ id → s.mux.activeStreams.lookup id' = some sc' → sc'.conn ≠ sc.conn) :
    Beside id sc.conn s (s.closeStream id) := by
  refine ⟨SharedMux.closeStream_next, fun i hi => ?_, fun c hc => ?_, hown⟩
  · rw [SharedMux.lookup_closeStream, if_neg hi]
  · rw [SharedMux.closeStream_some hsc]
    exact Function.update_of_ne hc _ _

variable [Reader κ] [Writer κ] [Closer κ]

lemma Beside.apply (h : Beside id conn s s') {op : Op ι} (hid : op.streamID ≠ some id)
    (hconn : op.conn ≠ some conn) :
    (apply s' op).1 = (apply s op).1 ∧ Beside id conn (apply s op).2 (apply s' op).2 := by
  cases op with
  | newStream tunnelID conn' =>
    obtain ⟨hsc, hb⟩ := h.newStream tunnelID fun he => hconn (congrArg some he)
    exact ⟨congrArg (Result.stream ∘ StreamConnection.streamID) hsc, hb⟩
  | closeStream id' => exact ⟨rfl, h.closeStream fun he => hid (congrArg some he)⟩
  | forward id' payload =>
    obtain ⟨hr, hb⟩ := h.forwardFrame (fun he => hid (congrArg some he))
      (newDataFrame id' payload true)
    exact ⟨congrArg Result.forwarded hr, hb⟩
  | forwardFrame id' frame =>
    obtain ⟨hr, hb⟩ := h.forwardFrame (fun he => hid (congrArg some he)) frame
    exact ⟨congrArg Result.forwarded hr, hb⟩
  | receive id' =>
    obtain ⟨hr, hb⟩ := h.receive fun he => hid (congrArg some he)
    exact ⟨congrArg Result.received hr, hb⟩

lemma Beside.results (h : Beside id conn s s') {ops : List (Op ι)}
    (hid : ∀ op ∈ ops, op.streamID ≠ some id) (hconn : conn ∉ connections ops) :
    results s' ops = results s ops := by
  induction ops generalizing s s' with
  | nil => rfl
  | cons op ops ih =>
    have hop : op.conn ≠ some conn := by
      intro he
      exact hconn (List.mem_filterMap.mpr ⟨op, List.mem_cons_self, he⟩)
    have hrest : conn ∉ connections ops := by
      intro hm
      obtain ⟨op', hop', he⟩ := List.mem_filterMap.mp hm
      exact hconn (List.mem_filterMap.mpr ⟨op', List.mem_cons_of_mem _ hop', he⟩)
    obtain ⟨hr, hb⟩ := h.apply (hid op List.mem_cons_self) hop
    rw [StreamTable.results, StreamTable.results, hr,
      ih hb (fun op' hop' => hid op' (List.mem_cons_of_mem _ hop')) hrest]

end Beside

section Run

variable {ι κ : Type*} {t : Trace ι κ} {conns : ι → κ} {ops : List (Op ι)}

lemma streamCount_eq (h : Sound t) : t.state.mux.streamCount = (openStreams t.events).length := by
  have hkeys : t.state.mux.activeStreams.keys = (openStreams t.events).toFinset := by
    ext id
    rw [List.mem_toFinset, h.mem_open, Finmap.mem_keys, ← Finmap.lookup_isSome,
      Option.isSome_iff_ne_none]
  rw [StreamMultiplexer.streamCount, hkeys, List.toFinset_card_of_nodup h.nodup_open]

variable [DecidableEq ι] [Reader κ] [Writer κ] [Closer κ]

lemma unshared_run (hrun : run step (start conns) ops = some t) (h : Sound t)
    (hown : (connections ops).Nodup) : t.state.Unshared := by
  have hops : t.events.map Prod.fst = ops := events_run hrun
  have hpair : (connections (t.events.map Prod.fst)).Nodup := hops ▸ hown
  intro id id' sc sc' hsc hsc' he
  have hentry := h.entry id sc hsc
  have hentry' := h.entry id' sc' hsc'
  rw [connections, List.filterMap_map, List.Nodup, List.pairwise_filterMap] at hpair
  by_contra hne
  have hdistinct : ((Op.newStream sc.tunnelID sc.conn, Result.stream id) : Event ι) ≠
      (Op.newStream sc'.tunnelID sc'.conn, Result.stream id') := by
    intro heq
    exact hne (Result.stream.inj (Prod.mk.inj heq).2)
  have hsymm : Std.Symm fun e e' : Event ι => ∀ b, (Op.conn ∘ Prod.fst) e = some b →
      ∀ b', (Op.conn ∘ Prod.fst) e' = some b' → b ≠ b' :=
    ⟨fun e e' hR b hb b' hb' => (hR b' hb' b hb).symm⟩
  exact hpair.forall hentry hentry' hdistinct sc.conn rfl sc'.conn rfl he

/-- Closing a stream changes no other's results, unless another has its connection or is to get
it. -/
theorem stream_table (hrun : run step (start conns) ops = some t)
    (hcount : (created t.events).length < 2 ^ 64 - 1) :
    (created t.events).Nodup ∧ 0 ∉ created t.events ∧
    t.state.mux.streamCount = (openStreams t.events).length ∧
    (∀ id sc, t.state.mux.getStream id = some sc →
      id ∈ openStreams t.events ∧
      (Op.newStream sc.tunnelID sc.conn, Result.stream id) ∈ t.events ∧
      (t.state.closeStream id).conns =
        Function.update t.state.conns sc.conn (close (t.state.conns sc.conn)).2 ∧
      (t.state.closeStream id).mux.getStream id = none ∧
      (∀ id', id' ≠ id → (t.state.closeStream id).mux.getStream id' = t.state.mux.getStream id') ∧
      ((∀ id' sc', id' ≠ id → t.state.mux.getStream id' = some sc' → sc'.conn ≠ sc.conn) →
        ∀ rest, sc.conn ∉ connections rest → (∀ op ∈ rest, op.streamID ≠ some id) →
          results (t.state.closeStream id) rest = results t.state rest)) ∧
    (∀ id, (t.state.closeStream id).closeStream id = t.state.closeStream id) ∧
    ∀ id, id ∉ openStreams t.events →
      t.state.closeStream id = t.state ∧
      (∀ payload, t.state.forward id payload = (some (.notFound id), t.state)) ∧
      (∀ frame, t.state.forwardFrame id frame = (some (.notFound id), t.state)) ∧
      t.state.receive id = (.error (.notFound id), t.state) := by
  have h := sound_run hrun hcount
  have hnodup : (created t.events).Nodup := by
    rw [h.created_eq]
    exact idents_nodup (by omega)
  refine ⟨hnodup, ?_, streamCount_eq h, fun id sc hsc => ?_, fun id => ?_, fun id hid => ?_⟩
  · rw [h.created_eq]
    intro hz
    obtain ⟨i, hi, he⟩ := List.mem_map.mp hz
    have hlt := List.mem_range.mp hi
    exact ident_ne_zero (by omega) he
  · have hlookup : t.state.mux.activeStreams.lookup id = some sc := hsc
    refine ⟨?_, h.entry id sc hsc, ?_, ?_, fun id' hid' => ?_, fun hown rest hconn hrest => ?_⟩
    · rw [h.mem_open, hlookup]
      exact Option.some_ne_none sc
    · rw [SharedMux.closeStream_some hlookup]
      rfl
    · show (t.state.closeStream id).mux.activeStreams.lookup id = none
      rw [SharedMux.lookup_closeStream, if_pos rfl]
    · show (t.state.closeStream id).mux.activeStreams.lookup id' = _
      rw [SharedMux.lookup_closeStream, if_neg hid']
      rfl
    · exact (beside_closeStream hlookup hown).results hrest hconn
  · have hnone : (t.state.closeStream id).mux.activeStreams.lookup id = none := by
      rw [SharedMux.lookup_closeStream, if_pos rfl]
    exact SharedMux.closeStream_none hnone
  · have hnone : t.state.mux.activeStreams.lookup id = none := by
      by_contra hne
      exact hid ((h.mem_open id).mpr hne)
    refine ⟨SharedMux.closeStream_none hnone, fun payload => ?_, fun frame => ?_, ?_⟩
    · exact SharedMux.forwardFrame_none hnone _
    · exact SharedMux.forwardFrame_none hnone frame
    · exact SharedMux.receive_none hnone

end Run

def twoStreams : List (Op Bool) :=
  [.newStream (ascii "a") false, .newStream (ascii "b") true, .closeStream 1,
    .forward 1 [5], .forward 2 [6]]

theorem stream_table_twoStreams :
    ∃ t : Trace Bool Duplex, run step (start fun _ => ⟨[], [], false⟩) twoStreams = some t ∧
      (created t.events).Nodup ∧ 0 ∉ created t.events ∧
      t.state.mux.streamCount = (openStreams t.events).length := by
  have hrun : run step (start fun _ : Bool => (⟨[], [], false⟩ : Duplex)) twoStreams = some _ := rfl
  obtain ⟨hnodup, hzero, hcount, -⟩ := stream_table hrun (by decide)
  exact ⟨_, hrun, hnodup, hzero, hcount⟩

def oneConnection : List (Op Unit) := [.newStream (ascii "a") (), .newStream (ascii "b") ()]

theorem stream_table_oneConnection : ¬ ∀ (ops rest : List (Op Unit)) (t : Trace Unit Duplex) id,
    run step (start fun _ => ⟨[], [], false⟩) ops = some t →
      (created t.events).length < 2 ^ 64 - 1 → id ∈ openStreams t.events →
        (∀ op ∈ rest, op.streamID ≠ some id) →
          results (t.state.closeStream id) rest = results t.state rest := by
  intro h
  have hrun : run step (start fun _ : Unit => (⟨[], [], false⟩ : Duplex)) oneConnection = some _ :=
    rfl
  have hsame := h oneConnection [.forward 2 [5]] _ 1 hrun (by decide) (by decide) (by decide)
  change [Result.forwarded (some (.frame (.writeHeader .closed)))] = [.forwarded none] at hsame
  cases hsame

end OmniTun.Relay.StreamTable
