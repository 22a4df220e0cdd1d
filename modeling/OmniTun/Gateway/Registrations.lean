import OmniTun.Foundation.Transition
import OmniTun.Gateway.HubIndex

/-! Requests to register and to unregister travel in channels of their own, and the hub's loop takes
them from either. -/

namespace OmniTun.Gateway.Registrations

open OmniTun.Foundation OmniTun.Foundation.Transition HubIndex

/-- `registered` and `unregistered` are the connections whose request has been sent. -/
structure State where
  loop : HubLoop
  registered : List AgentConnection
  unregistered : List AgentConnection

inductive Action
  | register (conn : AgentConnection)
  | unregister (conn : AgentConnection)
  | takeRegister
  | takeUnregister
  deriving DecidableEq

def start : State := ⟨.init, [], []⟩

def step (s : State) : Action → Option State
  | .register conn =>
    if conn ∈ s.unregistered then none
    else (s.loop.sendRegister conn).map fun l =>
      { s with loop := l, registered := conn :: s.registered }
  | .unregister conn =>
    if conn ∉ s.registered then none
    else (s.loop.sendUnregister conn).map fun l =>
      { s with loop := l, unregistered := conn :: s.unregistered }
  | .takeRegister => s.loop.takeRegister.map fun r => { s with loop := r.2.2 }
  | .takeUnregister => s.loop.takeUnregister.map fun l => { s with loop := l }

def Present (h : Hub) (c : AgentConnection) : Prop :=
  (∃ id, h.agents.lookup id = some c) ∨ ∃ o id, GroupedIndex.member h.byOrg o id = some c

/-- With both channels empty, no connection that has left is still in the hub. -/
def Clean (s : State) : Prop :=
  s.loop.register = [] → s.loop.unregister = [] → ∀ c ∈ s.unregistered, ¬ Present s.loop.hub c

/-- The loop takes the last request to unregister a connection only when no request to register it
is waiting. -/
def InOrder (s : State) : Action → Prop
  | .takeUnregister => ∀ c rest, s.loop.unregister = c :: rest → c ∈ s.loop.register → c ∈ rest
  | _ => True

structure Tracked (s : State) : Prop where
  indexed : Indexed s.loop.hub
  awaited : ∀ c ∈ s.unregistered, Current s.loop.hub c ∨ c ∈ s.loop.register → c ∈ s.loop.unregister

section

variable {h : Hub} {s t : State} {c conn : AgentConnection}

lemma Present.current (hi : Indexed h) (hp : Present h c) : Current h c := by
  rcases hp with ⟨id, hc⟩ | ⟨o, id, hm⟩
  · obtain rfl := hi.keyed id c hc
    exact hc
  · obtain ⟨hc, _⟩ := (hi.grouped o id c).mp hm
    obtain rfl := hi.keyed id c hc
    exact hc

lemma current_of_add (hc : Current (h.add conn).2 c) : c = conn ∨ Current h c := by
  have hl : (h.add conn).2.agents.lookup c.agentID =
      if c.agentID = conn.agentID then some conn else h.agents.lookup c.agentID := by
    simp only [Hub.add]
    cases h.agents.lookup conn.agentID with
    | none => rw [Table.lookup_insert]
    | some e =>
      rw [Table.lookup_insert, Table.lookup_erase]
      split_ifs <;> rfl
  rw [Current, Hub.get, hl] at hc
  split_ifs at hc
  · exact .inl (Option.some.inj hc).symm
  · exact .inr hc

lemma current_of_remove (hc : Current (h.remove conn) c) : c ≠ conn ∧ Current h c := by
  simp only [Current, Hub.get, Hub.remove] at hc
  split_ifs at hc with hconn
  · rw [Table.lookup_erase] at hc
    split_ifs at hc with hid
    refine ⟨?_, hc⟩
    rintro rfl
    exact hid rfl
  · refine ⟨?_, hc⟩
    rintro rfl
    exact hconn hc

lemma tracked_start : Tracked start where
  indexed := indexed_newHub
  awaited c hc := by simp [start] at hc

lemma Tracked.clean (ht : Tracked s) : Clean s := by
  intro _ hunreg c hc hp
  have hq := ht.awaited c hc (.inl (hp.current ht.indexed))
  rw [hunreg] at hq
  cases hq

lemma Tracked.register (ht : Tracked s) (h : step s (.register conn) = some t) : Tracked t := by
  simp only [step] at h
  split_ifs at h with hleft
  obtain ⟨l, hl, rfl⟩ := Option.map_eq_some_iff.mp h
  obtain rfl := HubLoop.sendRegister_eq_some hl
  refine ⟨ht.indexed, ?_⟩
  rintro c hc (hcur | hwait)
  · exact ht.awaited c hc (.inl hcur)
  · rcases List.mem_append.mp hwait with hw | hw
    · exact ht.awaited c hc (.inr hw)
    · obtain rfl := List.mem_singleton.mp hw
      exact absurd hc hleft

lemma Tracked.unregister (ht : Tracked s) (h : step s (.unregister conn) = some t) : Tracked t := by
  simp only [step] at h
  split_ifs at h
  obtain ⟨l, hl, rfl⟩ := Option.map_eq_some_iff.mp h
  obtain rfl := HubLoop.sendUnregister_eq_some hl
  refine ⟨ht.indexed, ?_⟩
  intro c hc hin
  rcases List.mem_cons.mp hc with rfl | hc
  · simp
  · exact List.mem_append_left _ (ht.awaited c hc hin)

lemma Tracked.takeRegister (ht : Tracked s) (h : step s .takeRegister = some t) : Tracked t := by
  obtain ⟨⟨conn, existing, l⟩, hl, rfl⟩ := Option.map_eq_some_iff.mp h
  obtain ⟨rest, hq, -, rfl⟩ := HubLoop.takeRegister_eq_some hl
  refine ⟨ht.indexed.add conn, ?_⟩
  rintro c hc (hcur | hwait)
  · rcases current_of_add hcur with rfl | hcur
    · exact ht.awaited c hc (.inr (by rw [hq]; exact List.mem_cons_self))
    · exact ht.awaited c hc (.inl hcur)
  · exact ht.awaited c hc (.inr (by rw [hq]; exact List.mem_cons_of_mem _ hwait))

lemma Tracked.takeUnregister (ht : Tracked s) (hg : InOrder s .takeUnregister)
    (h : step s .takeUnregister = some t) : Tracked t := by
  obtain ⟨l, hl, rfl⟩ := Option.map_eq_some_iff.mp h
  obtain ⟨conn, rest, hq, rfl⟩ := HubLoop.takeUnregister_eq_some hl
  refine ⟨ht.indexed.remove conn, ?_⟩
  intro c hc hin
  by_cases hne : c = conn
  · subst hne
    rcases hin with hcur | hwait
    · exact absurd rfl (current_of_remove hcur).1
    · exact hg c rest hq hwait
  · have hin' : Current s.loop.hub c ∨ c ∈ s.loop.register := by
      rcases hin with hcur | hwait
      · exact .inl (current_of_remove hcur).2
      · exact .inr hwait
    have hmem := ht.awaited c hc hin'
    rw [hq] at hmem
    exact List.mem_of_ne_of_mem hne hmem

lemma Tracked.step {a : Action} (ht : Tracked s) (hg : InOrder s a) (h : step s a = some t) :
    Tracked t := by
  cases a with
  | register conn => exact ht.register h
  | unregister conn => exact ht.unregister h
  | takeRegister => exact ht.takeRegister h
  | takeUnregister => exact ht.takeUnregister hg h

end

theorem no_zombies (as : List Action) (hg : Guarded step InOrder start as) :
    Always step Clean start as := by
  have ht : Always step Tracked start as :=
    always_of_guarded tracked_start hg fun s a t hs ha h => hs.step ha h
  exact ht.mono fun s hs => hs.clean

def reconnection : List Action :=
  [.register firstConnection, .takeRegister, .register secondConnection,
    .unregister firstConnection, .takeUnregister, .takeRegister, .unregister secondConnection,
    .takeUnregister]

theorem no_zombies_in_turn : Always step Clean start reconnection := by
  apply no_zombies
  refine .cons rfl trivial ?_
  refine .cons rfl trivial ?_
  refine .cons rfl trivial ?_
  refine .cons rfl trivial ?_
  refine .cons rfl ?_ ?_
  · rintro c rest ⟨rfl⟩ hc
    exact absurd hc (by decide)
  refine .cons rfl trivial ?_
  refine .cons rfl trivial ?_
  refine .cons rfl ?_ trivial
  rintro c rest ⟨rfl⟩ hc
  cases hc

theorem no_zombies_fails : ∃ t, run step start
    [.register firstConnection, .unregister firstConnection, .takeUnregister, .takeRegister] =
      some t ∧
    t.loop.register = [] ∧ t.loop.unregister = [] ∧ firstConnection ∈ t.unregistered ∧
      Present t.loop.hub firstConnection :=
  ⟨_, rfl, rfl, rfl, by decide, .inl ⟨ascii "agent", rfl⟩⟩

end OmniTun.Gateway.Registrations
