import OmniTun.Foundation.Processes
import OmniTun.Relay.Handshake

/-! How long registrations last: the handlers of the agents' connections step by step, on the
dispatcher, the multiplexer and the transports of the agents' streams. -/

namespace OmniTun.Relay.Lifetimes

open OmniTun.Foundation OmniTun.Foundation.Transition OmniTun.Foundation.Processes
open OmniTun.Protocol DispatcherIsolation

/-- A handler that has returned may have left a registration and a stream behind. -/
inductive Local
  | idle
  | authorized (tunnelID : Bytes)
  | registered (tunnelID : Bytes)
  | opened (tunnelID : Bytes) (streamID : UInt64)
  | assigned (tunnelID : Bytes) (streamID : UInt64)
  | waiting (tunnelID : Bytes) (streamID : UInt64)
  | returned (left : Option (Bytes × UInt64))

namespace Local

def quiet : Local → Bool
  | .idle | .waiting .. | .returned _ => true
  | _ => false

def completed : Local → Bool
  | .waiting .. => true
  | _ => false

def tunnel : Local → Option Bytes
  | .registered id | .opened id _ | .assigned id _ | .waiting id _ => some id
  | .returned left => left.map Prod.fst
  | _ => none

def stream : Local → Option (Bytes × UInt64)
  | .opened id streamID | .assigned id streamID | .waiting id streamID => some (id, streamID)
  | .returned left => left
  | _ => none

def set : Local → Option UInt64
  | .assigned _ streamID | .waiting _ streamID => some streamID
  | .returned left => left.map Prod.snd
  | _ => none

end Local

/-- The connections in the multiplexer are named by their handlers. `owner` tells whose context the
dispatcher holds for an identifier, and `streams` lists the handlers' streams, newest first. -/
structure Store (ι : Type*) where
  dispatcher : Dispatcher
  owner : Bytes → Option ι
  streamMux : StreamMultiplexer ι
  streams : List (Bytes × ι)
  ended : ι → Bool

/-- `accept` is what accepting the stream and decoding its first frame give. -/
inductive Event
  | accept (stream : Option (Except FrameError Frame)) (now : ℤ)
  | register
  | newStream
  | assign
  | ack (ok : Bool)
  | streamEnds

variable {ι : Type*}

def start (dispatcher : Dispatcher) : World ι Local (Store ι) :=
  ⟨fun _ => .idle, dispatcher, fun _ => none, newStreamMultiplexer ι, [], fun _ => false⟩

def Store.newestOpen (s : Store ι) (tunnelID : Bytes) : Option ι :=
  (s.streams.find? fun p => p.1 = tunnelID ∧ s.ended p.2 = false).map Prod.snd

def Quiescent (w : World ι Local (Store ι)) : Prop := ∀ i, (w.locals i).quiet = true

def Routed (w : World ι Local (Store ι)) : Prop :=
  ∀ ctx, (∃ host, w.store.dispatcher.lookup host = some ctx) ∨
    (∃ slug, w.store.dispatcher.lookupBySlug slug = some ctx) →
      ∀ i, w.store.owner ctx.tunnelID = some i → (w.locals i).completed = true →
        ∃ sc, w.store.streamMux.getStream ctx.streamID = some sc

structure Lawful (w : World ι Local (Store ι)) : Prop where
  routed : Routed w
  live : Quiescent w → ∀ id sc, w.store.streamMux.getStream id = some sc →
    w.store.ended sc.conn = false
  newest : Quiescent w → ∀ id i, w.store.owner id = some i →
    ∃ ctx sc, w.store.dispatcher.tunnels.lookup id = some ctx ∧
      w.store.streamMux.getStream ctx.streamID = some sc ∧ sc.tunnelID = id ∧
        w.store.newestOpen id = some sc.conn

/-- No agent stream ends once it is in the multiplexer, or before it is put there. A handler opens
its stream under an identifier that is not in use, and not after a handler that has registered the
tunnel later. -/
def Steady (w : World ι Local (Store ι)) (a : ι × Event) : Prop :=
  match a.2, w.locals a.1 with
  | .streamEnds, l => l.stream = none
  | .newStream, .registered id => w.store.ended a.1 = false ∧
      w.store.streamMux.getStream w.store.streamMux.nextStreamID = none ∧
        ∀ j, w.store.owner id = some j → j ≠ a.1 → (w.locals j).stream = none
  | _, _ => True

def accepted (mac : Bytes → Bytes → Bytes) (v : TokenValidator) (now : ℤ) :
    Option (Except FrameError Frame) → Local
  | none | some (.error _) => .returned none
  | some (.ok frame) =>
    match authorize mac v now frame with
    | .error _ => .returned none
    | .ok tunnelID => .authorized tunnelID

lemma accepted_left (mac : Bytes → Bytes → Bytes) (v : TokenValidator) (now : ℤ)
    (stream : Option (Except FrameError Frame)) :
    (accepted mac v now stream).tunnel = none ∧ (accepted mac v now stream).stream = none := by
  cases stream with
  | none => exact ⟨rfl, rfl⟩
  | some r =>
    cases r with
    | error err => exact ⟨rfl, rfl⟩
    | ok frame =>
      simp only [accepted]
      cases authorize mac v now frame <;> exact ⟨rfl, rfl⟩

structure Tracked (w : World ι Local (Store ι)) : Prop where
  owned : ∀ id i, w.store.owner id = some i → (w.locals i).tunnel = some id ∧
    ∃ ctx, w.store.dispatcher.tunnels.lookup id = some ctx ∧
      ∀ streamID, (w.locals i).set = some streamID → ctx.streamID = streamID
  active : ∀ i id streamID, (w.locals i).stream = some (id, streamID) →
    ∃ sc, w.store.streamMux.getStream streamID = some sc

structure Sound (w : World ι Local (Store ι)) : Prop where
  tracked : Tracked w
  entries : ∀ i id streamID, (w.locals i).stream = some (id, streamID) →
    w.store.streamMux.getStream streamID = some ⟨streamID, id, i⟩
  known : ∀ streamID sc, w.store.streamMux.getStream streamID = some sc →
    (w.locals sc.conn).stream ≠ none
  listed : ∀ p ∈ w.store.streams, (w.locals p.2).stream ≠ none
  alive : ∀ i, (w.locals i).stream ≠ none → w.store.ended i = false
  newest : ∀ id i, w.store.owner id = some i → (w.locals i).stream ≠ none →
    w.store.streams.find? (fun p => p.1 = id) = some (id, i)

section AtRest

variable {w : World ι Local (Store ι)} {i : ι} {l : Local} {id : Bytes}

lemma getStream_newStream (sm : StreamMultiplexer ι) (id : Bytes) (i : ι) (streamID : UInt64) :
    (sm.newStream id i).2.getStream streamID =
      if streamID = sm.nextStreamID then some ⟨sm.nextStreamID, id, i⟩
      else sm.getStream streamID :=
  Table.lookup_insert ..

lemma set_of_quiet (hq : l.quiet = true) (ht : l.tunnel = some id) :
    ∃ streamID, l.stream = some (id, streamID) ∧ l.set = some streamID := by
  cases l with
  | waiting id' streamID =>
    obtain rfl := Option.some.inj ht
    exact ⟨streamID, rfl, rfl⟩
  | returned left =>
    obtain ⟨⟨id', streamID⟩, rfl, rfl⟩ := Option.map_eq_some_iff.mp ht
    exact ⟨streamID, rfl, rfl⟩
  | idle => cases ht
  | authorized _ => cases ht
  | registered _ => cases hq
  | opened _ _ => cases hq
  | assigned _ _ => cases hq

lemma row_of_lookup {d : Dispatcher} {ctx : TunnelContext}
    (h : (∃ host, d.lookup host = some ctx) ∨ ∃ slug, d.lookupBySlug slug = some ctx) :
    d.tunnels.lookup ctx.tunnelID = some ctx := by
  rcases h with ⟨host, h⟩ | ⟨slug, h⟩
  · rw [lookup_eq] at h
    exact (route_of_bind h).2
  · rw [lookupBySlug_eq] at h
    exact (route_of_bind h).2

lemma Tracked.routed (hw : Tracked w) : Routed w := by
  intro ctx hlookup i howner hi
  obtain ⟨ht, ctx', hctx', hset⟩ := hw.owned _ i howner
  obtain rfl := Option.some.inj ((row_of_lookup hlookup).symm.trans hctx')
  have hq : (w.locals i).quiet = true := by
    cases hl : w.locals i with
    | waiting _ _ => rfl
    | _ => simp [hl, Local.completed] at hi
  obtain ⟨streamID, hstream, hs⟩ := set_of_quiet hq ht
  rw [hset streamID hs]
  exact hw.active i _ streamID hstream

lemma Sound.newestOpen (hw : Sound w) (howner : w.store.owner id = some i)
    (hstream : (w.locals i).stream ≠ none) : w.store.newestOpen id = some i := by
  have hall : ∀ p ∈ w.store.streams,
      decide (p.1 = id ∧ w.store.ended p.2 = false) = decide (p.1 = id) := by
    intro p hp
    simp [hw.alive p.2 (hw.listed p hp)]
  rw [Store.newestOpen, ← List.head?_filter, List.filter_congr hall, List.head?_filter,
    hw.newest id i howner hstream]
  rfl

lemma Sound.lawful (hw : Sound w) : Lawful w where
  routed := hw.tracked.routed
  live _ id sc hsc := hw.alive sc.conn (hw.known id sc hsc)
  newest hq id i howner := by
    obtain ⟨ht, ctx, hctx, hset⟩ := hw.tracked.owned id i howner
    obtain ⟨streamID, hstream, hs⟩ := set_of_quiet (hq i) ht
    obtain rfl := hset streamID hs
    refine ⟨ctx, _, hctx, hw.entries i id _ hstream, rfl, hw.newestOpen howner ?_⟩
    simp [hstream]

lemma sound_start (dispatcher : Dispatcher) : Sound (start (ι := ι) dispatcher) where
  tracked := ⟨nofun, nofun⟩
  entries := nofun
  known streamID sc h := by
    cases h
  listed p hp := absurd hp List.not_mem_nil
  alive i hi := rfl
  newest := nofun

end AtRest

variable [DecidableEq ι]

section

variable (mac : Bytes → Bytes → Bytes) (v : TokenValidator)

def next (i : ι) : Event → Local → Store ι → Option (Local × Store ι)
  | .accept stream now, .idle, s => some (accepted mac v now stream, s)
  | .register, .authorized id, s =>
    match s.dispatcher.register { tunnelID := id } with
    | .error _ => some (.returned none, s)
    | .ok dispatcher =>
      some (.registered id,
        { s with dispatcher := dispatcher, owner := Function.update s.owner id (some i) })
  | .newStream, .registered id, s =>
    let (sc, streamMux) := s.streamMux.newStream id i
    some (.opened id sc.streamID,
      { s with streamMux := streamMux, streams := (id, i) :: s.streams })
  -- the context is the handler's own, whether or not the dispatcher still holds it
  | .assign, .opened id streamID, s =>
    some (.assigned id streamID,
      if s.owner id = some i then { s with dispatcher := s.dispatcher.setStreamID id streamID }
      else s)
  | .ack ok, .assigned id streamID, s =>
    some (if ok then .waiting id streamID else .returned (some (id, streamID)), s)
  | .streamEnds, l, s => some (l, { s with ended := Function.update s.ended i true })
  | _, _, _ => none

end

lemma run_alone {κ : Type*} [Transport.Writer κ] {mac : Bytes → Bytes → Bytes} {v : TokenValidator}
    {w : World ι Local (Store ι)} {i : ι} {id : Bytes} (relay : Server κ) (stream : κ)
    (hid : id ≠ []) (hl : w.locals i = .authorized id)
    (hd : relay.dispatcher = w.store.dispatcher)
    (hn : relay.streamMux.nextStreamID = w.store.streamMux.nextStreamID) :
    ∃ w', run (Processes.step (next mac v)) w
        [(i, .register), (i, .newStream), (i, .assign), (i, .ack true)] = some w' ∧
      w'.store.dispatcher = (relay.connect stream id).2.dispatcher ∧
        w'.store.streamMux.nextStreamID = (relay.connect stream id).2.streamMux.nextStreamID := by
  have hconnect : (relay.connect stream id).2.dispatcher =
      (w.store.dispatcher.store { tunnelID := id } hid).setStreamID id
        w.store.streamMux.nextStreamID ∧
      (relay.connect stream id).2.streamMux.nextStreamID =
        w.store.streamMux.nextStreamID + 1 := by
    simp only [Server.connect, Dispatcher.register, dif_neg hid, StreamMultiplexer.newStream, hd, hn]
    split <;> exact ⟨rfl, rfl⟩
  rw [hconnect.1, hconnect.2]
  simp only [run_cons, run_nil, Processes.step, next, hl, Dispatcher.register, dif_neg hid,
    Option.map_some, Option.bind_some, Function.update_self, if_true]
  exact ⟨_, rfl, rfl, rfl⟩

inductive Effect (i : ι) : Event → Local → Local → Store ι → Store ι → Prop
  | ends {l s} : Effect i .streamEnds l l s { s with ended := Function.update s.ended i true }
  | moves {e l l' s} (hl : l.stream = none) (hl' : l'.tunnel = none) (hs' : l'.stream = none)
      (ht : l.tunnel = none) : Effect i e l l' s s
  | registers {id s} (hid : id ≠ []) :
      Effect i .register (.authorized id) (.registered id) s
        { s with
          dispatcher := s.dispatcher.store { tunnelID := id } hid
          owner := Function.update s.owner id (some i) }
  | opens {id s} :
      Effect i .newStream (.registered id) (.opened id s.streamMux.nextStreamID) s
        { s with
          streamMux := (s.streamMux.newStream id i).2
          streams := (id, i) :: s.streams }
  | assigns {id streamID s} :
      Effect i .assign (.opened id streamID) (.assigned id streamID) s
        (if s.owner id = some i then { s with dispatcher := s.dispatcher.setStreamID id streamID }
        else s)
  | answers {ok id streamID l' s} (ht : l'.tunnel = some id) (hs : l'.stream = some (id, streamID))
      (hset : l'.set = some streamID) : Effect i (.ack ok) (.assigned id streamID) l' s s

section Steps

variable {mac : Bytes → Bytes → Bytes} {v : TokenValidator} {i : ι} {e : Event} {l l' : Local}
  {s s' : Store ι}

lemma next_effect (h : next mac v i e l s = some (l', s')) : Effect i e l l' s s' := by
  cases e with
  | accept stream now =>
    cases l <;> simp only [next, reduceCtorEq, Option.some.injEq, Prod.mk.injEq] at h
    obtain ⟨rfl, rfl⟩ := h
    obtain ⟨ht, hs⟩ := accepted_left mac v now stream
    exact .moves rfl ht hs rfl
  | register =>
    cases l <;> simp only [next, reduceCtorEq] at h
    rename_i id
    by_cases hid : id = []
    · simp only [Dispatcher.register, hid, dif_pos, Option.some.injEq, Prod.mk.injEq] at h
      obtain ⟨rfl, rfl⟩ := h
      exact .moves rfl rfl rfl rfl
    · simp only [Dispatcher.register, dif_neg hid, Option.some.injEq, Prod.mk.injEq] at h
      obtain ⟨rfl, rfl⟩ := h
      exact .registers hid
  | newStream =>
    cases l <;> simp only [next, reduceCtorEq, Option.some.injEq, Prod.mk.injEq] at h
    obtain ⟨rfl, rfl⟩ := h
    exact .opens
  | assign =>
    cases l <;> simp only [next, reduceCtorEq, Option.some.injEq, Prod.mk.injEq] at h
    obtain ⟨rfl, rfl⟩ := h
    exact .assigns
  | ack ok =>
    cases l <;> simp only [next, reduceCtorEq, Option.some.injEq, Prod.mk.injEq] at h
    obtain ⟨rfl, rfl⟩ := h
    cases ok <;> exact .answers rfl rfl rfl
  | streamEnds =>
    have h' : some (l, { s with ended := Function.update s.ended i true }) = some (l', s') := by
      rw [← h]
      cases l <;> rfl
    obtain ⟨rfl, rfl⟩ := Prod.mk.inj (Option.some.inj h')
    exact .ends

end Steps

section Invariants

variable {w : World ι Local (Store ι)} {i j : ι} {l l' : Local} {e : Event} {s' : Store ι}
  {id : Bytes} {streamID : UInt64}

lemma stream_update (h : (Function.update w.locals i l' j).stream = some (id, streamID)) :
    (j = i ∧ l'.stream = some (id, streamID)) ∨
      (j ≠ i ∧ (w.locals j).stream = some (id, streamID)) :=
  update_cases (fun l : Local => l.stream = some (id, streamID)) h

lemma tracked_same (hw : Tracked w) (ht : l'.tunnel = (w.locals i).tunnel)
    (hs : l'.stream = (w.locals i).stream)
    (hset : ∀ streamID, l'.set = some streamID → (w.locals i).set = some streamID) :
    Tracked ⟨Function.update w.locals i l', w.store⟩ where
  owned id j hj := by
    obtain ⟨hid, ctx, hctx, hstream⟩ := hw.owned id j hj
    by_cases h : j = i
    · subst h
      simp only [Function.update_self]
      exact ⟨ht.trans hid, ctx, hctx, fun streamID h => hstream streamID (hset streamID h)⟩
    · simp only [Function.update_of_ne h]
      exact ⟨hid, ctx, hctx, hstream⟩
  active j id streamID hj := by
    rcases stream_update hj with ⟨-, h⟩ | ⟨-, h⟩
    · exact hw.active i id streamID (hs ▸ h)
    · exact hw.active j id streamID h

lemma tracked_registers (hw : Tracked w) (hl : w.locals i = .authorized id) (hid : id ≠ []) :
    Tracked ⟨Function.update w.locals i (.registered id),
      { w.store with
        dispatcher := w.store.dispatcher.store { tunnelID := id } hid
        owner := Function.update w.store.owner id (some i) }⟩ where
  owned id' j hj := by
    by_cases h : id' = id
    · subst h
      simp only [Function.update_self, Option.some.injEq] at hj
      subst hj
      simp only [Function.update_self]
      refine ⟨rfl, _, w.store.dispatcher.store_row { tunnelID := id' } hid, fun streamID h => ?_⟩
      cases h
    · simp only [Function.update_of_ne h] at hj
      obtain ⟨ht, ctx, hctx, hstream⟩ := hw.owned id' j hj
      have hne : j ≠ i := by
        rintro rfl
        simp [hl, Local.tunnel] at ht
      simp only [Function.update_of_ne hne]
      refine ⟨ht, ctx, ?_, hstream⟩
      simpa only [Dispatcher.store, Table.lookup_insert, if_neg h] using hctx
  active j id' streamID hj := by
    rcases stream_update hj with ⟨-, h⟩ | ⟨-, h⟩
    · cases h
    · exact hw.active j id' streamID h

lemma tracked_opens (hw : Tracked w) (hl : w.locals i = .registered id) :
    Tracked ⟨Function.update w.locals i (.opened id w.store.streamMux.nextStreamID),
      { w.store with
        streamMux := (w.store.streamMux.newStream id i).2
        streams := (id, i) :: w.store.streams }⟩ where
  owned id' j hj := by
    obtain ⟨ht, ctx, hctx, hstream⟩ := hw.owned id' j hj
    by_cases h : j = i
    · subst h
      rw [hl] at ht
      simp only [Function.update_self]
      refine ⟨ht, ctx, hctx, fun streamID h => ?_⟩
      cases h
    · simp only [Function.update_of_ne h]
      exact ⟨ht, ctx, hctx, hstream⟩
  active j id' streamID hj := by
    rw [getStream_newStream]
    split_ifs with h
    · exact ⟨_, rfl⟩
    · rcases stream_update hj with ⟨-, hj⟩ | ⟨-, hj⟩
      · cases hj
        exact absurd rfl h
      · exact hw.active j id' streamID hj

lemma tracked_assigns (hw : Tracked w) (hl : w.locals i = .opened id streamID) :
    Tracked ⟨Function.update w.locals i (.assigned id streamID),
      if w.store.owner id = some i then
        { w.store with dispatcher := w.store.dispatcher.setStreamID id streamID }
      else w.store⟩ := by
  have hactive : ∀ j id' streamID',
      (Function.update w.locals i (.assigned id streamID) j).stream = some (id', streamID') →
        ∃ sc, w.store.streamMux.getStream streamID' = some sc := by
    intro j id' streamID' hj
    rcases stream_update hj with ⟨-, h⟩ | ⟨-, h⟩
    · exact hw.active i id' streamID' (by rw [hl]; exact h)
    · exact hw.active j id' streamID' h
  split_ifs with howner
  · refine ⟨fun id' j hj => ?_, hactive⟩
    obtain ⟨ht, ctx, hctx, hstream⟩ := hw.owned id' j hj
    obtain ⟨-, ctx₀, hctx₀, -⟩ := hw.owned id i howner
    have hrow : (w.store.dispatcher.setStreamID id streamID).tunnels =
        w.store.dispatcher.tunnels.insert id { ctx₀ with streamID := streamID } :=
      Dispatcher.modify_tunnels hctx₀
    by_cases hj' : j = i
    · subst hj'
      obtain rfl : id = id' := by
        rw [hl] at ht
        exact Option.some.inj ht
      simp only [Function.update_self]
      refine ⟨rfl, { ctx₀ with streamID := streamID }, ?_, fun _ h => Option.some.inj h⟩
      rw [hrow, Table.lookup_insert, if_pos rfl]
    · have hne : id' ≠ id := by
        rintro rfl
        exact hj' (Option.some.inj (hj.symm.trans howner))
      simp only [Function.update_of_ne hj']
      refine ⟨ht, ctx, ?_, hstream⟩
      rw [hrow, Table.lookup_insert, if_neg hne, hctx]
  · refine ⟨fun id' j hj => ?_, hactive⟩
    obtain ⟨ht, ctx, hctx, hstream⟩ := hw.owned id' j hj
    have hne : j ≠ i := by
      rintro rfl
      rw [hl] at ht
      exact howner (Option.some.inj ht ▸ hj)
    simp only [Function.update_of_ne hne]
    exact ⟨ht, ctx, hctx, hstream⟩

lemma tracked_effect (hw : Tracked w) (hl : w.locals i = l) (h : Effect i e l l' w.store s') :
    Tracked ⟨Function.update w.locals i l', s'⟩ := by
  generalize hs : w.store = s at h
  cases h with
  | ends =>
    have hsame := tracked_same (i := i) hw rfl rfl fun _ h => h
    subst hl hs
    exact ⟨hsame.owned, hsame.active⟩
  | moves hlstream ht' hs' ht =>
    subst hs
    refine tracked_same hw (by rw [hl, ht, ht']) (by rw [hl, hs', hlstream]) fun streamID h => ?_
    cases l' <;> simp_all [Local.set, Local.tunnel]
  | registers hid =>
    subst hs
    exact tracked_registers hw hl hid
  | opens =>
    subst hs
    exact tracked_opens hw hl
  | assigns =>
    subst hs
    exact tracked_assigns hw hl
  | answers ht hs' hset =>
    subst hs
    exact tracked_same hw (by rw [hl, ht]; rfl) (by rw [hl, hs']; rfl) fun streamID h => by
      rw [hl, ← h, hset]
      rfl

lemma sound_same (hw : Sound w) (hs : l'.stream = (w.locals i).stream)
    (ht : Tracked ⟨Function.update w.locals i l', s'⟩)
    (howner : ∀ id j, s'.owner id = some j → l'.stream ≠ none ∨ j ≠ i →
      w.store.owner id = some j)
    (hmux : s'.streamMux = w.store.streamMux) (hstreams : s'.streams = w.store.streams)
    (hended : ∀ j, (w.locals j).stream ≠ none → s'.ended j = w.store.ended j) :
    Sound ⟨Function.update w.locals i l', s'⟩ := by
  have hlocal : ∀ j, (Function.update w.locals i l' j).stream = (w.locals j).stream := by
    intro j
    by_cases h : j = i
    · subst h
      simpa using hs
    · simp [h]
  refine ⟨ht, ?_, ?_, ?_, ?_, ?_⟩ <;> simp only [hlocal, hmux, hstreams]
  · exact hw.entries
  · exact hw.known
  · exact hw.listed
  · exact fun j hj => (hended j hj).trans (hw.alive j hj)
  · intro id j hj hstream
    refine hw.newest id j (howner id j hj ?_) hstream
    by_cases h : j = i
    · subst h
      exact .inl (hs ▸ hstream)
    · exact .inr h

lemma sound_opens (hw : Sound w) (hl : w.locals i = .registered id)
    (halive : w.store.ended i = false)
    (hfresh : w.store.streamMux.getStream w.store.streamMux.nextStreamID = none)
    (hfirst : ∀ j, w.store.owner id = some j → j ≠ i → (w.locals j).stream = none) :
    Sound ⟨Function.update w.locals i (.opened id w.store.streamMux.nextStreamID),
      { w.store with
        streamMux := (w.store.streamMux.newStream id i).2
        streams := (id, i) :: w.store.streams }⟩ where
  tracked := tracked_opens hw.tracked hl
  entries j id' streamID hj := by
    rw [getStream_newStream]
    rcases stream_update hj with ⟨rfl, hnew⟩ | ⟨-, hold⟩
    · cases hnew
      rw [if_pos rfl]
    · have hentry := hw.entries j id' streamID hold
      have hne : streamID ≠ w.store.streamMux.nextStreamID := by
        rintro rfl
        rw [hfresh] at hentry
        cases hentry
      rw [if_neg hne, hentry]
  known streamID sc hsc := by
    rw [getStream_newStream] at hsc
    split_ifs at hsc
    · obtain rfl := Option.some.inj hsc
      simp [Local.stream]
    · have hstream := hw.known streamID sc hsc
      by_cases h : sc.conn = i
      · simp [h, Local.stream]
      · simpa [h] using hstream
  listed p hp := by
    by_cases h : p.2 = i
    · simp [h, Local.stream]
    · rcases List.mem_cons.mp hp with rfl | hp
      · exact absurd rfl h
      · simpa [h] using hw.listed p hp
  alive j hj := by
    by_cases h : j = i
    · exact h ▸ halive
    · exact hw.alive j (by simpa [h] using hj)
  newest id' j hj hstream := by
    have hj : w.store.owner id' = some j := hj
    by_cases hid : id' = id
    · subst hid
      by_cases h : j = i
      · simp [h]
      · simp [h, hfirst j hj h] at hstream
    · have hne : j ≠ i := by
        rintro rfl
        have ht := (hw.tracked.owned id' j hj).1
        rw [hl] at ht
        exact hid (Option.some.inj ht).symm
      rw [List.find?_cons_of_neg (by simpa using Ne.symm hid)]
      exact hw.newest id' j hj (by simpa [hne] using hstream)

lemma sound_step {mac : Bytes → Bytes → Bytes} {v : TokenValidator} {a : ι × Event}
    {w' : World ι Local (Store ι)} (hw : Sound w) (hg : Steady w a)
    (h : Processes.step (next mac v) w a = some w') : Sound w' := by
  obtain ⟨i, e⟩ := a
  obtain ⟨l', s', hnext, rfl⟩ := step_eq_some h
  have he := next_effect hnext
  have ht := tracked_effect hw.tracked rfl he
  generalize hl : w.locals i = l at he
  generalize hs : w.store = s at he
  cases he with
  | ends =>
    subst hs hl
    refine sound_same hw rfl ht (fun _ _ h _ => h) rfl rfl fun j hj => ?_
    have hne : j ≠ i := by
      rintro rfl
      exact hj hg
    exact Function.update_of_ne hne ..
  | moves hlstream ht' hs' hlt =>
    subst hs
    exact sound_same hw (by rw [hl, hs', hlstream]) ht (fun _ _ h _ => h) rfl rfl fun _ _ => rfl
  | @registers id _ hid =>
    subst hs
    refine sound_same hw (by rw [hl]; rfl) ht (fun id' j hj hor => ?_) rfl rfl fun _ _ => rfl
    by_cases h : id' = id
    · subst h
      simp only [Function.update_self, Option.some.injEq] at hj
      subst hj
      simp [Local.stream] at hor
    · simpa only [Function.update_of_ne h] using hj
  | opens =>
    subst hs
    simp only [Steady, hl] at hg
    exact sound_opens hw hl hg.1 hg.2.1 hg.2.2
  | assigns =>
    subst hs
    refine sound_same hw (by rw [hl]; rfl) ht ?_ ?_ ?_ ?_ <;> split_ifs
    all_goals first | exact fun _ _ h _ => h | exact fun _ _ => rfl | rfl
  | answers ht' hs' hset =>
    subst hs
    exact sound_same hw (by rw [hl, hs']; rfl) ht (fun _ _ h _ => h) rfl rfl fun _ _ => rfl

end Invariants

lemma routed_always (mac : Bytes → Bytes → Bytes) (v : TokenValidator) (dispatcher : Dispatcher)
    (steps : List (ι × Event)) :
    Always (Processes.step (next mac v)) Routed (start dispatcher) steps := by
  apply Always.mono (P := Tracked)
  · apply always_invariant (sound_start dispatcher).tracked
    rintro w a w' hw h
    obtain ⟨l', s', hnext, rfl⟩ := step_eq_some h
    exact tracked_effect hw rfl (next_effect hnext)
  · exact fun w hw => hw.routed

/-- From any dispatcher that holds no handler's context yet. -/
theorem registration_lifetime (mac : Bytes → Bytes → Bytes) (v : TokenValidator)
    (dispatcher : Dispatcher) (steps : List (ι × Event))
    (hsteady : Guarded (Processes.step (next mac v)) Steady (start dispatcher) steps) :
    Always (Processes.step (next mac v)) Lawful (start dispatcher) steps := by
  apply Always.mono (P := Sound)
  · exact always_of_guarded (sound_start dispatcher) hsteady fun w a w' hw hg h => sound_step hw hg h
  · exact fun w hw => hw.lawful

section Runs

def zeroMac (_ _ : Bytes) : Bytes := List.replicate 32 0

def validator : TokenValidator := newTokenValidator (ascii "secret") 0

def connectFrame : Frame :=
  ⟨frameVersion, frameTypeControl, 0, 0,
    controlTunnelConnect :: (ascii "T" ++ [newline] ++ (validator.generate zeroMac 0 (ascii "T")).1)⟩

def handshake : List (Unit × Event) :=
  [((), .accept (some (.ok connectFrame)) 0), ((), .register), ((), .newStream), ((), .assign),
    ((), .ack true)]

theorem registration_lifetime_handshake :
    Always (Processes.step (next zeroMac validator)) Lawful (start newDispatcher) handshake := by
  apply registration_lifetime
  refine .cons rfl trivial ?_
  refine .cons rfl trivial ?_
  refine .cons rfl ⟨rfl, rfl, fun j _ hne => absurd rfl hne⟩ ?_
  refine .cons rfl trivial ?_
  exact .cons rfl trivial trivial

theorem registration_lifetime_fails :
    ¬ Always (Processes.step (next zeroMac validator)) Lawful (start newDispatcher)
      (handshake ++ [((), .streamEnds)]) := by
  intro h
  have hlive := (h.last rfl).live (fun _ => rfl) 1 _ rfl
  cases hlive

end Runs

end OmniTun.Relay.Lifetimes
