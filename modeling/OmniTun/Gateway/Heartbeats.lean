import OmniTun.Gateway.Sessions

/-! The heartbeats of one live agent among the sessions of the gateway: the agent's ticker, the write
pump, the message loop and the hub's check, on one clock. -/

namespace OmniTun.Gateway.Heartbeats

open OmniTun.Foundation OmniTun.Foundation.Transition HubIndex Registrations
open Sessions (HandlerEvent PumpEvent Duty heartbeatTimeout)

inductive Frame
  | ping
  | pong
  | data
  deriving DecidableEq, Repr

def heartbeatInterval : ℕ := 30 * 10 ^ 9

/-- The frames on the wire carry the times at which they were sent. The ticks are the times at which
the tickers of the agent's heartbeat loop, of its write pump and of the hub's check fire next.
`heard` is the history of the times at which the gateway has made or registered the connection or
read an application message from it. -/
structure State where
  gateway : Sessions.State
  toServer : List (Frame × ℕ)
  toAgent : List (Frame × ℕ)
  agentTick : Option ℕ
  pumpTick : ℕ
  checkTick : ℕ
  heard : List ℕ

def start : State where
  gateway := Sessions.start
  toServer := []
  toAgent := []
  agentTick := none
  pumpTick := 0
  checkTick := heartbeatInterval
  heard := []

/-- `answer` and `deliver` are reads of one frame, by the agent and by the gateway. -/
inductive Action
  | dial
  | heartbeat
  | send
  | answer
  | deliver
  | gateway (a : Sessions.Action)

section

variable (c : AgentConnection)

def stampedBy : HandlerEvent → Bool
  | .newAgentConnection | .stamp | .receive => true
  | _ => false

def stamps : Sessions.Action → Bool
  | .handler conn event => decide (conn = c) && stampedBy event
  | _ => false

namespace State

variable (s : State)

def linkUp : Bool :=
  !(s.gateway.phase c).ended && (s.gateway.pump c = .idle || s.gateway.pump c = .running)

/-- The tickers fire on time, and every frame is read within one interval. -/
def punctual (now : ℕ) : Bool :=
  decide (now ≤ s.checkTick) &&
    (!decide (s.gateway.pump c = .running) || decide (now ≤ s.pumpTick)) &&
      (!s.linkUp c ||
        (s.agentTick.all fun t => now ≤ t) &&
          (s.toServer ++ s.toAgent).all fun f => now ≤ f.2 + heartbeatInterval)

/-- Writes on the agent's link succeed, and its reads fail only after the pump has closed it. -/
def allows : Sessions.Action → Bool
  | .handler conn event =>
    !decide (conn = c) ||
      match event with
      | .newAgentConnection => s.agentTick.isSome
      | .receive => false
      | .readFails => !s.linkUp c
      | _ => true
  | .pump conn event =>
    !decide (conn = c) ||
      match event with
      | .write ok => ok
      | .ping ok => ok && s.gateway.now = s.pumpTick
      | .done => true
  | .checkHeartbeats _ => s.gateway.now = s.checkTick
  | .tick elapsed => s.punctual c (s.gateway.now + elapsed)
  | _ => true

def afterStep : Sessions.Action → State
  | .handler conn .register =>
    if conn = c then { s with pumpTick := s.gateway.now + heartbeatInterval } else s
  | .pump conn (.write _) =>
    if conn = c then { s with toAgent := s.toAgent ++ [(.data, s.gateway.now)] } else s
  | .pump conn (.ping _) =>
    if conn = c then
      { s with
        toAgent := s.toAgent ++ [(.ping, s.gateway.now)]
        pumpTick := s.gateway.now + heartbeatInterval }
    else s
  | .checkHeartbeats _ => { s with checkTick := s.gateway.now + heartbeatInterval }
  | _ => s

def advance (a : Sessions.Action) : Option State :=
  (Sessions.step s.gateway a).map fun g =>
    { s.afterStep c a with
      gateway := g
      heard := if stamps c a then s.gateway.now :: s.heard else s.heard }

end State

/-- `ReadMessage` answers a ping with a pong and drops a pong; only a data message ends it. -/
def step (s : State) : Action → Option State
  | .dial =>
    if s.agentTick = none then
      some { s with agentTick := some (s.gateway.now + heartbeatInterval) }
    else none
  | .heartbeat =>
    if s.linkUp c ∧ s.agentTick = some s.gateway.now then
      some { s with
        toServer := s.toServer ++ [(.ping, s.gateway.now)]
        agentTick := some (s.gateway.now + heartbeatInterval) }
    else none
  | .send =>
    if s.linkUp c ∧ s.agentTick ≠ none then
      some { s with toServer := s.toServer ++ [(.data, s.gateway.now)] }
    else none
  | .answer =>
    if ¬ s.linkUp c then none
    else
      match s.toAgent with
      | [] => none
      | (.ping, _) :: rest =>
        some { s with toAgent := rest, toServer := s.toServer ++ [(.pong, s.gateway.now)] }
      | _ :: rest => some { s with toAgent := rest }
  | .deliver =>
    if ¬ (s.linkUp c ∧ s.gateway.phase c = .serving) then none
    else
      match s.toServer with
      | [] => none
      | (.ping, _) :: rest =>
        some { s with toServer := rest, toAgent := s.toAgent ++ [(.pong, s.gateway.now)] }
      | (.pong, _) :: rest => some { s with toServer := rest }
      | (.data, _) :: rest => { s with toServer := rest }.advance c (.handler c .receive)
  | .gateway a => if s.allows c a then s.advance c a else none

end

def connOf : Duty → AgentConnection
  | .unregister c | .close c => c

/-- No check has found the connection too old, and none has it to unregister or to close. -/
structure Spared (c : AgentConnection) (s : State) : Prop where
  timedOut : c ∉ s.gateway.timedOut
  duties : ∀ d ∈ s.gateway.duties, connOf d ≠ c

/-- When a check runs while the connection is the agent's current one, it was registered or an
application message was read from it at most one timeout before. -/
def HeardFrom (c : AgentConnection) (s : State) : Action → Prop
  | .gateway (.checkHeartbeats _) => Current s.gateway.loop.hub c →
      ∃ t ∈ s.heard, s.gateway.now ≤ t + heartbeatTimeout
  | _ => True

section Gateway

variable {c conn : AgentConnection} {g g' : Sessions.State} {a : Sessions.Action}

def found (g : Sessions.State) : Sessions.Action → List AgentConnection
  | .checkHeartbeats order => g.timeouts order
  | _ => []

def Met (c : AgentConnection) (g : Sessions.State) : Prop :=
  g.phase c ≠ .idle ∨ c ∈ g.loop.register ∨ Current g.loop.hub c

structure HandlerFrame (conn : AgentConnection) (e : HandlerEvent) (g g' : Sessions.State) :
    Prop where
  now : g'.now = g.now
  timedOut : g'.timedOut = g.timedOut
  duties : g'.duties = g.duties
  hub : g'.loop.hub = g.loop.hub
  lastPing : g'.lastPing =
    if stampedBy e then Function.update g.lastPing conn g.now else g.lastPing
  others : ∀ d, d ≠ conn → g'.phase d = g.phase d ∧ (d ∈ g'.loop.register → d ∈ g.loop.register)
  begun : stampedBy e = true ∨ g.phase conn ≠ .idle

lemma mem_sendRegister {l l' : HubLoop} {d : AgentConnection} (h : l.sendRegister conn = some l')
    (hne : d ≠ conn) (hd : d ∈ l'.register) : d ∈ l.register := by
  obtain rfl := HubLoop.sendRegister_eq_some h
  rcases List.mem_append.mp hd with hd | hd
  · exact hd
  · exact absurd (List.mem_singleton.mp hd) hne

lemma sendUnregister_register {l l' : HubLoop} (h : l.sendUnregister conn = some l') :
    l'.register = l.register := by
  rw [HubLoop.sendUnregister_eq_some h]

lemma handler_frame {e : HandlerEvent} (h : g.handler conn e = some g') :
    HandlerFrame conn e g g' := by
  have hphase : ∀ (g : Sessions.State) (p : Sessions.Phase) (d : AgentConnection), d ≠ conn →
      (g.setPhase conn p).phase d = g.phase d := fun g p d hne => Function.update_of_ne hne ..
  cases e with
  | newAgentConnection =>
    cases hp : g.phase conn <;>
      simp only [Sessions.State.handler, hp, reduceCtorEq, Option.some.injEq] at h
    subst h
    exact ⟨rfl, rfl, rfl, rfl, rfl, fun d hne => ⟨hphase _ _ d hne, id⟩, .inl rfl⟩
  | stamp =>
    cases hp : g.phase conn <;>
      simp only [Sessions.State.handler, hp, reduceCtorEq, Option.some.injEq] at h
    all_goals
      subst h
      exact ⟨rfl, rfl, rfl, rfl, rfl, fun d hne => ⟨hphase _ _ d hne, id⟩, .inl rfl⟩
  | register =>
    cases hp : g.phase conn <;>
      simp only [Sessions.State.handler, hp, reduceCtorEq, Option.map_eq_some_iff] at h
    all_goals
      obtain ⟨l, hl, rfl⟩ := h
      exact ⟨rfl, rfl, rfl, Sessions.sendRegister_hub hl, rfl,
        fun d hne => ⟨hphase _ _ d hne, mem_sendRegister hl hne⟩, .inr (by simp [hp])⟩
  | welcome pick draw =>
    cases hp : g.phase conn <;> simp only [Sessions.State.handler, hp, reduceCtorEq] at h
    cases hm : newMessage draw msgServerWelcome (Sessions.welcomePayload conn) <;>
    · simp only [hm, Option.some.injEq] at h
      subst h
      exact ⟨rfl, rfl, rfl, rfl, rfl, fun d hne => ⟨hphase _ _ d hne, id⟩, .inr (by simp [hp])⟩
  | receive =>
    cases hp : g.phase conn <;>
      simp only [Sessions.State.handler, hp, reduceCtorEq, Option.some.injEq] at h
    subst h
    exact ⟨rfl, rfl, rfl, rfl, rfl, fun d _ => ⟨rfl, id⟩, .inl rfl⟩
  | readFails =>
    cases hp : g.phase conn <;>
      simp only [Sessions.State.handler, hp, reduceCtorEq, Option.some.injEq] at h
    subst h
    exact ⟨rfl, rfl, rfl, rfl, rfl, fun d hne => ⟨hphase _ _ d hne, id⟩, .inr (by simp [hp])⟩
  | unregister =>
    cases hp : g.phase conn <;>
      simp only [Sessions.State.handler, hp, reduceCtorEq, Option.map_eq_some_iff] at h
    obtain ⟨l, hl, rfl⟩ := h
    refine ⟨rfl, rfl, rfl, Sessions.sendUnregister_hub hl, rfl, fun d hne => ?_, .inr (by simp [hp])⟩
    exact ⟨hphase _ _ d hne, fun hd => sendUnregister_register hl ▸ hd⟩
  | close =>
    cases hp : g.phase conn <;>
      simp only [Sessions.State.handler, hp, reduceCtorEq, Option.some.injEq] at h
    subst h
    exact ⟨rfl, rfl, rfl, rfl, rfl, fun d hne => ⟨hphase _ _ d hne, id⟩, .inr (by simp [hp])⟩

structure Progress (c : AgentConnection) (a : Sessions.Action) (g g' : Sessions.State) : Prop where
  indexed : Indexed g.loop.hub → Indexed g'.loop.hub
  lastPing : g'.lastPing c = if stamps c a then g.now else g.lastPing c
  now : g.now ≤ g'.now
  timedOut : g'.timedOut = g.timedOut ++ found g a
  duties : ∀ d ∈ g'.duties, d ∈ g.duties ∨ connOf d ∈ found g a
  met : Met c g' → Met c g ∨ stamps c a = true

lemma progress_same (hs : stamps c a = false) (hf : found g a = [])
    (hi : Indexed g.loop.hub → Indexed g'.loop.hub) (hp : g'.lastPing = g.lastPing)
    (hn : g.now ≤ g'.now) (ht : g'.timedOut = g.timedOut) (hd : ∀ d ∈ g'.duties, d ∈ g.duties)
    (hm : Met c g' → Met c g) : Progress c a g g' where
  indexed := hi
  lastPing := by simp [hs, hp]
  now := hn
  timedOut := by simp [hf, ht]
  duties d h := .inl (hd d h)
  met h := .inl (hm h)

lemma handler_progress {e : HandlerEvent} (h : g.handler conn e = some g') :
    Progress c (.handler conn e) g g' := by
  have hf := handler_frame h
  refine ⟨fun hi => hf.hub ▸ hi, ?_, hf.now.ge, ?_, fun d hd => .inl (hf.duties ▸ hd), ?_⟩
  · rw [hf.lastPing]
    by_cases hc : conn = c
    · subst hc
      cases he : stampedBy e <;> simp [stamps, he]
    · have hne : c ≠ conn := fun h => hc h.symm
      cases he : stampedBy e <;> simp [stamps, hc, hne]
  · simp [hf.timedOut, found]
  · intro hm
    by_cases hc : conn = c
    · subst hc
      rcases hf.begun with he | hidle
      · exact .inr (by simp [stamps, he])
      · exact .inl (.inl hidle)
    · obtain ⟨hphase, hregister⟩ := hf.others c fun h => hc h.symm
      rcases hm with hm | hm | hm
      · exact .inl (.inl (hphase ▸ hm))
      · exact .inl (.inr (.inl (hregister hm)))
      · exact .inl (.inr (.inr (hf.hub ▸ hm)))

lemma pump_progress {e : PumpEvent} (h : g.writePump conn e = some g') :
    Progress c (.pump conn e) g g' := by
  have hpump : ∀ p, Progress c (.pump conn e) g (g.setPump conn p) := fun p =>
    progress_same rfl rfl id rfl le_rfl rfl (fun _ hd => hd) id
  by_cases hrun : g.pump conn = .running
  · simp only [Sessions.State.writePump, hrun, ne_eq, not_true_eq_false, if_false] at h
    cases e with
    | write ok =>
      cases hq : (g.box conn).queued with
      | nil => simp [hq] at h
      | cons m rest =>
        simp only [hq, Option.some.injEq] at h
        subst h
        cases ok <;> exact progress_same rfl rfl id rfl le_rfl rfl (fun _ hd => hd) id
    | ping ok =>
      simp only [Option.some.injEq] at h
      subst h
      cases ok with
      | true => exact progress_same rfl rfl id rfl le_rfl rfl (fun _ hd => hd) id
      | false => exact hpump .failed
    | done =>
      simp only at h
      split_ifs at h
      exact Option.some.inj h ▸ hpump .stopped
  · simp [Sessions.State.writePump, hrun] at h

lemma takeRegister_progress (h : Sessions.step g .takeRegister = some g') :
    Progress c .takeRegister g g' := by
  obtain ⟨⟨conn, existing, l⟩, hl, hg'⟩ := Option.map_eq_some_iff.mp h
  obtain ⟨rest, hq, -, rfl⟩ := HubLoop.takeRegister_eq_some hl
  have hsame : g'.lastPing = g.lastPing ∧ g'.now = g.now ∧ g'.timedOut = g.timedOut ∧
      g'.duties = g.duties ∧ g'.phase = g.phase ∧
      g'.loop = { g.loop with hub := (g.loop.hub.add conn).2, register := rest } := by
    cases existing with
    | none => exact hg' ▸ ⟨rfl, rfl, rfl, rfl, rfl, rfl⟩
    | some e => exact hg' ▸ ⟨rfl, rfl, rfl, rfl, rfl, rfl⟩
  obtain ⟨hp, hn, ht, hd, hphase, hloop⟩ := hsame
  refine progress_same rfl rfl ?_ hp hn.ge ht (fun d h => hd ▸ h) ?_
  · rw [hloop]
    exact fun hi => hi.add conn
  · rintro (hm | hm | hm)
    · exact .inl (hphase ▸ hm)
    · rw [hloop] at hm
      exact .inr (.inl (hq ▸ List.mem_cons_of_mem conn hm))
    · rw [hloop] at hm
      rcases current_of_add hm with rfl | hm
      · exact .inr (.inl (hq ▸ List.mem_cons_self))
      · exact .inr (.inr hm)

lemma takeUnregister_progress (h : Sessions.step g .takeUnregister = some g') :
    Progress c .takeUnregister g g' := by
  obtain ⟨l, hl, rfl⟩ := Option.map_eq_some_iff.mp h
  obtain ⟨conn, rest, -, rfl⟩ := HubLoop.takeUnregister_eq_some hl
  refine progress_same rfl rfl (fun hi => hi.remove conn) rfl le_rfl rfl (fun _ hd => hd) ?_
  rintro (hm | hm | hm)
  · exact .inl hm
  · exact .inr (.inl hm)
  · exact .inr (.inr (current_of_remove hm).2)

lemma checkHeartbeats_progress {order : Table.RangeOrder Bytes}
    (h : Sessions.step g (.checkHeartbeats order) = some g') :
    Progress c (.checkHeartbeats order) g g' := by
  simp only [Sessions.step] at h
  split_ifs at h
  obtain rfl := Option.some.inj h
  refine ⟨id, rfl, le_rfl, rfl, fun d hd => .inr ?_, .inl⟩
  obtain ⟨e, he, hde⟩ := List.mem_flatMap.mp hd
  rcases List.mem_cons.mp hde with rfl | hde
  · exact he
  · obtain rfl := List.mem_singleton.mp hde
    exact he

lemma duty_progress (h : g.duty = some g') : Progress c .duty g g' := by
  simp only [Sessions.State.duty] at h
  cases hd : g.duties with
  | nil => simp [hd] at h
  | cons d rest =>
    have hrest : ∀ d' ∈ rest, d' ∈ g.duties := fun d' hd' => hd ▸ List.mem_cons_of_mem d hd'
    cases d with
    | unregister e =>
      simp only [hd, Option.map_eq_some_iff] at h
      obtain ⟨l, hl, rfl⟩ := h
      refine progress_same rfl rfl (fun hi => ?_) rfl le_rfl rfl hrest ?_
      · exact (Sessions.sendUnregister_hub hl).symm ▸ hi
      · rintro (hm | hm | hm)
        · exact .inl hm
        · exact .inr (.inl (sendUnregister_register hl ▸ hm))
        · exact .inr (.inr (Sessions.sendUnregister_hub hl ▸ hm))
    | close e =>
      simp only [hd, Option.some.injEq] at h
      subst h
      exact progress_same rfl rfl id rfl le_rfl rfl hrest id

lemma gateway_progress (h : Sessions.step g a = some g') : Progress c a g g' := by
  cases a with
  | handler conn e => exact handler_progress h
  | pump conn e => exact pump_progress h
  | send conn pick data =>
    obtain rfl := Option.some.inj h
    exact progress_same rfl rfl id rfl le_rfl rfl (fun _ hd => hd) id
  | takeRegister => exact takeRegister_progress h
  | takeUnregister => exact takeUnregister_progress h
  | checkHeartbeats order => exact checkHeartbeats_progress h
  | duty => exact duty_progress h
  | tick elapsed =>
    obtain rfl := Option.some.inj h
    exact progress_same rfl rfl id rfl (Nat.le_add_right ..) rfl (fun _ hd => hd) id

lemma mem_timeouts {order : Table.RangeOrder Bytes} (hi : Indexed g.loop.hub) :
    c ∈ g.timeouts order ↔ Current g.loop.hub c ∧ heartbeatTimeout < g.now - g.lastPing c := by
  have hmem : c ∈ (order.entries g.loop.hub.agents).map Prod.snd ↔ Current g.loop.hub c := by
    constructor
    · rintro h
      obtain ⟨⟨id, d⟩, hd, rfl⟩ := List.mem_map.mp h
      have hl := (order.mem_entries ..).mp hd
      obtain rfl := hi.keyed id d hl
      exact hl
    · intro h
      exact List.mem_map.mpr ⟨(c.agentID, c), (order.mem_entries ..).mpr h, rfl⟩
  rw [Sessions.State.timeouts, List.mem_filter, hmem, decide_eq_true_eq]

end Gateway

section Steps

variable {c : AgentConnection} {s t : State} {a : Action}

structure Tracks (c : AgentConnection) (s : State) : Prop where
  indexed : Indexed s.gateway.loop.hub
  past : s.gateway.lastPing c ≤ s.gateway.now
  latest : ∀ t ∈ s.heard, t ≤ s.gateway.lastPing c
  heard : Met c s.gateway → s.gateway.lastPing c ∈ s.heard

lemma step_cases (h : step c s a = some t) :
    (t.gateway = s.gateway ∧ t.heard = s.heard ∧ ∀ order, a ≠ .gateway (.checkHeartbeats order)) ∨
      ∃ b, Sessions.step s.gateway b = some t.gateway ∧
        t.heard = (if stamps c b then s.gateway.now :: s.heard else s.heard) ∧
        (a = .gateway b ∨ b = .handler c .receive ∧ a = .deliver) := by
  cases a with
  | dial =>
    simp only [step] at h
    split_ifs at h
    exact .inl (Option.some.inj h ▸ ⟨rfl, rfl, nofun⟩)
  | heartbeat =>
    simp only [step] at h
    split_ifs at h
    exact .inl (Option.some.inj h ▸ ⟨rfl, rfl, nofun⟩)
  | send =>
    simp only [step] at h
    split_ifs at h
    exact .inl (Option.some.inj h ▸ ⟨rfl, rfl, nofun⟩)
  | answer =>
    simp only [step] at h
    split_ifs at h
    left
    split at h
    · cases h
    · exact Option.some.inj h ▸ ⟨rfl, rfl, nofun⟩
    · exact Option.some.inj h ▸ ⟨rfl, rfl, nofun⟩
  | deliver =>
    simp only [step] at h
    split_ifs at h
    split at h
    · cases h
    · exact .inl (Option.some.inj h ▸ ⟨rfl, rfl, nofun⟩)
    · exact .inl (Option.some.inj h ▸ ⟨rfl, rfl, nofun⟩)
    · obtain ⟨g, hg, rfl⟩ := Option.map_eq_some_iff.mp h
      exact .inr ⟨_, hg, rfl, .inr ⟨rfl, rfl⟩⟩
  | gateway b =>
    simp only [step] at h
    split_ifs at h
    obtain ⟨g, hg, rfl⟩ := Option.map_eq_some_iff.mp h
    exact .inr ⟨b, hg, rfl, .inl rfl⟩

lemma tracks_step (hs : Tracks c s) (h : step c s a = some t) : Tracks c t := by
  rcases step_cases h with ⟨hg, hh, -⟩ | ⟨b, hb, hh, -⟩
  · exact ⟨hg ▸ hs.indexed, hg ▸ hs.past, hg ▸ hh ▸ hs.latest, hg ▸ hh ▸ hs.heard⟩
  · have hp : Progress c b s.gateway t.gateway := gateway_progress hb
    have hn := hp.now
    have hl := hp.lastPing
    refine ⟨hp.indexed hs.indexed, ?_, ?_, ?_⟩ <;> rw [hl]
    · split_ifs
      · exact hn
      · exact hs.past.trans hn
    · rw [hh]
      split_ifs
      · intro u hu
        rcases List.mem_cons.mp hu with rfl | hu
        · exact le_rfl
        · exact (hs.latest u hu).trans hs.past
      · exact hs.latest
    · intro hm
      rw [hh]
      split_ifs with hst
      · exact List.mem_cons_self
      · exact hs.heard ((hp.met hm).resolve_right hst)

lemma not_found_iff (hs : Tracks c s) {order : Table.RangeOrder Bytes} :
    c ∉ s.gateway.timeouts order ↔ HeardFrom c s (.gateway (.checkHeartbeats order)) := by
  rw [mem_timeouts hs.indexed]
  constructor
  · intro h hcur
    refine ⟨_, hs.heard (.inr (.inr hcur)), ?_⟩
    by_contra hlt
    exact h ⟨hcur, by omega⟩
  · rintro h ⟨hcur, hlt⟩
    obtain ⟨t, ht, hle⟩ := h hcur
    have hlatest := hs.latest t ht
    omega

lemma spared_step_iff (hs : Spared c s) (ht : Tracks c s) (h : step c s a = some t) :
    Spared c t ↔ HeardFrom c s a := by
  rcases step_cases h with ⟨hg, -, hne⟩ | ⟨b, hb, -, hab⟩
  · have hguard : HeardFrom c s a := by
      cases a with
      | gateway b =>
        cases b with
        | checkHeartbeats order => exact absurd rfl (hne order)
        | _ => trivial
      | _ => trivial
    exact ⟨fun _ => hguard, fun _ => ⟨hg ▸ hs.timedOut, hg ▸ hs.duties⟩⟩
  · have hp : Progress c b s.gateway t.gateway := gateway_progress hb
    have hspared : Spared c t ↔ c ∉ found s.gateway b := by
      constructor
      · intro hsp hmem
        exact hsp.timedOut (hp.timedOut ▸ List.mem_append_right _ hmem)
      · intro hmem
        refine ⟨?_, ?_⟩
        · rw [hp.timedOut]
          exact fun hin => (List.mem_append.mp hin).elim hs.timedOut hmem
        · rintro d hd rfl
          rcases hp.duties d hd with hd | hd
          · exact hs.duties d hd rfl
          · exact hmem hd
    rw [hspared]
    have hnil : found s.gateway b = [] → HeardFrom c s a → (c ∉ found s.gateway b ↔ HeardFrom c s a) :=
      fun hf hguard => ⟨fun _ => hguard, fun _ => by simp [hf]⟩
    rcases hab with rfl | ⟨rfl, rfl⟩
    · cases b with
      | checkHeartbeats order => exact not_found_iff ht
      | _ => exact hnil rfl trivial
    · exact hnil rfl trivial

lemma tracks_start : Tracks c start where
  indexed := indexed_newHub
  past := le_rfl
  latest t ht := absurd ht List.not_mem_nil
  heard hm := by
    rcases hm with hm | hm | hm
    · exact absurd rfl hm
    · exact absurd hm List.not_mem_nil
    · cases hm

theorem live_agent_spared_iff (c : AgentConnection) (as : List Action) :
    Always (step c) (Spared c) start as ↔ Guarded (step c) (HeardFrom c) start as := by
  apply always_iff_guarded
  · exact ⟨List.not_mem_nil, fun d hd => absurd hd List.not_mem_nil⟩
  · exact tracks_start (c := c)
  · exact fun s a t hs ht h => ⟨spared_step_iff hs ht h, fun _ => tracks_step ht h⟩

end Steps

section Runs

def connect : List Action :=
  [.dial, .gateway (.handler firstConnection .newAgentConnection),
    .gateway (.handler firstConnection .stamp), .gateway (.handler firstConnection .register),
    .gateway .takeRegister, .gateway (.handler firstConnection (.welcome true ⟨some [], []⟩)),
    .gateway (.handler firstConnection .stamp), .gateway (.handler firstConnection .register),
    .gateway (.pump firstConnection (.write true)), .answer]

def tickers : List Action :=
  [.gateway (.tick heartbeatInterval), .heartbeat, .gateway (.pump firstConnection (.ping true)),
    .gateway (.checkHeartbeats .byCode)]

def exchange : List Action := [.deliver, .answer, .answer, .deliver]

def idle : List Action := tickers ++ exchange

theorem live_agent_spared_fails :
    ¬ Always (step firstConnection) (Spared firstConnection) start
      (connect ++ idle ++ idle ++ idle ++ tickers) := by
  intro h
  have hrun : (run (step firstConnection) start (connect ++ idle ++ idle ++ idle ++ tickers)).map
      (fun s => s.gateway.timedOut) = some [firstConnection] := by decide +kernel
  obtain ⟨t, ht, hout⟩ := Option.map_eq_some_iff.mp hrun
  exact (h.last ht).timedOut (hout ▸ List.mem_cons_self)

end Runs

end OmniTun.Gateway.Heartbeats
