import OmniTun.Gateway.Registrations

/-! The sessions of the gateway: the handlers of the agents' connections, their write pumps, the
hub's loop and the heartbeat check, in any interleaving. -/

namespace OmniTun.Gateway.Sessions

open OmniTun.Foundation OmniTun.Foundation.Transition HubIndex

inductive Phase
  | idle
  | accepted
  | stamped
  | registered
  | welcomed
  | stampedAgain
  | serving
  | leaving
  | unregistered
  | closed
  deriving DecidableEq, Repr

def Phase.ended : Phase → Bool
  | .leaving | .unregistered | .closed => true
  | _ => false

inductive Pump
  | idle
  | running
  | failed
  | stopped
  deriving DecidableEq, Repr

inductive Duty
  | unregister (conn : AgentConnection)
  | close (conn : AgentConnection)
  deriving DecidableEq

/-- Times are in nanoseconds. `added` is the history of the hub's additions, and `timedOut` that of
the connections that a heartbeat check found too old. -/
structure State where
  loop : HubLoop
  phase : AgentConnection → Phase
  pump : AgentConnection → Pump
  box : AgentConnection → Outbox
  lastPing : AgentConnection → ℕ
  now : ℕ
  duties : List Duty
  added : List AgentConnection
  timedOut : List AgentConnection

def start : State where
  loop := .init
  phase _ := .idle
  pump _ := .idle
  box _ := ⟨[], false⟩
  lastPing _ := 0
  now := 0
  duties := []
  added := []
  timedOut := []

def heartbeatTimeout : ℕ := 90 * 10 ^ 9

def welcomePayload (conn : AgentConnection) : Payload :=
  .value (.obj [(ascii "agent_id", .str conn.agentID), (ascii "session_id", .str []),
    (ascii "server_version", .str (ascii "1.0.0"))])

inductive HandlerEvent
  | newAgentConnection
  | stamp
  | register
  | welcome (pick : Bool) (draw : Draw)
  | receive
  | readFails
  | unregister
  | close

inductive PumpEvent
  | write (ok : Bool)
  | ping (ok : Bool)
  | done

inductive Action
  | handler (conn : AgentConnection) (event : HandlerEvent)
  | pump (conn : AgentConnection) (event : PumpEvent)
  | send (conn : AgentConnection) (pick : Bool) (data : Json)
  | takeRegister
  | takeUnregister
  | checkHeartbeats (order : Table.RangeOrder Bytes)
  | duty
  | tick (elapsed : ℕ)

namespace State

variable (s : State) (conn : AgentConnection)

def setPhase (p : Phase) : State := { s with phase := Function.update s.phase conn p }

def setPump (p : Pump) : State := { s with pump := Function.update s.pump conn p }

def setBox (b : Outbox) : State := { s with box := Function.update s.box conn b }

def ping : State := { s with lastPing := Function.update s.lastPing conn s.now }

def cancel : State := s.setBox conn { s.box conn with cancelled := true }

def writeMessage (pick : Bool) (data : Json) : State :=
  s.setBox conn ((s.box conn).writeMessage pick data).2

def handler (event : HandlerEvent) : Option State :=
  match event, s.phase conn with
  | .newAgentConnection, .idle => some ((s.ping conn).setPhase conn .accepted)
  -- the first lines of `Register`, and then its send
  | .stamp, .accepted => some ((s.ping conn).setPhase conn .stamped)
  | .register, .stamped =>
    (s.loop.sendRegister conn).map fun l => { s.setPhase conn .registered with loop := l }
  | .welcome pick draw, .registered =>
    match newMessage draw msgServerWelcome (welcomePayload conn) with
    | none => some (s.setPhase conn .welcomed)
    | some msg => some ((s.writeMessage conn pick msg.marshal).setPhase conn .welcomed)
  | .stamp, .welcomed => some ((s.ping conn).setPhase conn .stampedAgain)
  | .register, .stampedAgain =>
    (s.loop.sendRegister conn).map fun l =>
      { (s.setPhase conn .serving).setPump conn .running with loop := l }
  | .receive, .serving => some (s.ping conn)
  | .readFails, .serving => some (s.setPhase conn .leaving)
  | .unregister, .leaving =>
    (s.loop.sendUnregister conn).map fun l => { s.setPhase conn .unregistered with loop := l }
  | .close, .unregistered => some ((s.cancel conn).setPhase conn .closed)
  | _, _ => none

def writePump (event : PumpEvent) : Option State :=
  if s.pump conn ≠ .running then none
  else
    match event with
    | .write ok =>
      match (s.box conn).queued with
      | [] => none
      | _ :: rest =>
        let s' := s.setBox conn { s.box conn with queued := rest }
        some (if ok then s' else s'.setPump conn .failed)
    | .ping ok => some (if ok then s else s.setPump conn .failed)
    | .done => if (s.box conn).cancelled then some (s.setPump conn .stopped) else none

def timeouts (order : Table.RangeOrder Bytes) : List AgentConnection :=
  ((order.entries s.loop.hub.agents).map Prod.snd).filter fun c =>
    heartbeatTimeout < s.now - s.lastPing c

def duty : Option State :=
  match s.duties with
  | [] => none
  | .unregister c :: rest =>
    (s.loop.sendUnregister c).map fun l => { s with loop := l, duties := rest }
  | .close c :: rest => some { s.cancel c with duties := rest }

end State

def step (s : State) : Action → Option State
  | .handler conn event => s.handler conn event
  | .pump conn event => s.writePump conn event
  | .send conn pick data => some (s.writeMessage conn pick data)
  | .takeRegister => s.loop.takeRegister.map fun (conn, existing, l) =>
    let s' := { s with loop := l, added := s.added ++ [conn] }
    match existing with
    | none => s'
    | some e => s'.cancel e
  | .takeUnregister => s.loop.takeUnregister.map fun l => { s with loop := l }
  | .checkHeartbeats order =>
    if s.duties ≠ [] then none
    else some { s with
      duties := (s.timeouts order).flatMap fun c => [.unregister c, .close c]
      timedOut := s.timedOut ++ s.timeouts order }
  | .duty => s.duty
  | .tick elapsed => some { s with now := s.now + elapsed }

/-- Another connection of the agent has been added after this one, or the message loop has ended,
or the heartbeat has timed out. -/
def Excused (s : State) (c : AgentConnection) : Prop :=
  (∃ d, d ≠ c ∧ d.agentID = c.agentID ∧ [c, d].Sublist s.added) ∨ (s.phase c).ended = true ∨
    c ∈ s.timedOut

structure Justified (s : State) : Prop where
  contexts : ∀ c, (s.box c).cancelled = true → Excused s c
  pumps : ∀ c, s.phase c = .serving → s.pump c = .running ∨ s.pump c = .failed ∨ Excused s c

/-- The loop adds a connection that is its agent's current one already only when it may be closed. -/
def Replaces (s : State) : Action → Prop
  | .takeRegister => ∀ c, s.loop.register.head? = some c → Current s.loop.hub c → Excused s c
  | _ => True

structure Known (s : State) : Prop where
  indexed : Indexed s.loop.hub
  added : ∀ c, Current s.loop.hub c → c ∈ s.added
  duties : ∀ c, .close c ∈ s.duties → c ∈ s.timedOut

structure Effect (s t : State) : Prop where
  known : Known s → Known t
  added : s.added <+: t.added
  ended : ∀ c, (s.phase c).ended = true → (t.phase c).ended = true
  timedOut : ∀ c ∈ s.timedOut, c ∈ t.timedOut
  cancelled : ∀ c, (t.box c).cancelled = true → (s.box c).cancelled = true ∨ Excused t c
  pumps : ∀ c, t.phase c = .serving → t.pump c = .running ∨ t.pump c = .failed ∨
    (s.box c).cancelled = true ∨ Excused t c ∨ s.phase c = .serving ∧ t.pump c = s.pump c

section Steps

variable {s t u : State} {conn c : AgentConnection}

lemma Excused.mono (he : Effect s t) (h : Excused s c) : Excused t c := by
  rcases h with ⟨d, hne, hid, hafter⟩ | hended | hout
  · exact .inl ⟨d, hne, hid, hafter.trans he.added.sublist⟩
  · exact .inr (.inl (he.ended c hended))
  · exact .inr (.inr (he.timedOut c hout))

lemma Effect.trans (h : Effect s t) (h' : Effect t u) : Effect s u where
  known hk := h'.known (h.known hk)
  added := h.added.trans h'.added
  ended c hc := h'.ended c (h.ended c hc)
  timedOut c hc := h'.timedOut c (h.timedOut c hc)
  cancelled c hc := by
    rcases h'.cancelled c hc with hc | hc
    · exact (h.cancelled c hc).imp_right (Excused.mono h')
    · exact .inr hc
  pumps c hc := by
    rcases h'.pumps c hc with hrun | hfail | hcancel | hexc | ⟨hserve, heq⟩
    · exact .inl hrun
    · exact .inr (.inl hfail)
    · rcases h.cancelled c hcancel with hcancel | hexc
      · exact .inr (.inr (.inl hcancel))
      · exact .inr (.inr (.inr (.inl (hexc.mono h'))))
    · exact .inr (.inr (.inr (.inl hexc)))
    · rw [heq]
      rcases h.pumps c hserve with hrun | hfail | hcancel | hexc | hsame
      · exact .inl hrun
      · exact .inr (.inl hfail)
      · exact .inr (.inr (.inl hcancel))
      · exact .inr (.inr (.inr (.inl (hexc.mono h'))))
      · exact .inr (.inr (.inr (.inr hsame)))

lemma Effect.justified (he : Effect s t) (hs : Justified s) : Justified t where
  contexts c hc := by
    rcases he.cancelled c hc with hc | hc
    · exact (hs.contexts c hc).mono he
    · exact hc
  pumps c hc := by
    rcases he.pumps c hc with hrun | hfail | hcancel | hexc | ⟨hserve, heq⟩
    · exact .inl hrun
    · exact .inr (.inl hfail)
    · exact .inr (.inr ((hs.contexts c hcancel).mono he))
    · exact .inr (.inr hexc)
    · rw [heq]
      exact (hs.pumps c hserve).imp_right (Or.imp_right (Excused.mono he))

lemma effect_frame (hknown : Known s → Known t) (hadd : s.added <+: t.added)
    (hout : ∀ c ∈ s.timedOut, c ∈ t.timedOut) (hphase : t.phase = s.phase)
    (hpump : t.pump = s.pump) (hbox : t.box = s.box) : Effect s t where
  known := hknown
  added := hadd
  ended c hc := by rwa [hphase]
  timedOut := hout
  cancelled c hc := .inl (by rwa [hbox] at hc)
  pumps c hc := .inr (.inr (.inr (.inr ⟨by rwa [hphase] at hc, by rw [hpump]⟩)))

lemma effect_loop {l : HubLoop} (hl : l.hub = s.loop.hub) : Effect s { s with loop := l } :=
  effect_frame (fun hk => ⟨hl ▸ hk.indexed, hl ▸ hk.added, hk.duties⟩) List.prefix_rfl
    (fun _ h => h) rfl rfl rfl

lemma effect_ping : Effect s (s.ping conn) :=
  effect_frame (fun hk => ⟨hk.indexed, hk.added, hk.duties⟩) List.prefix_rfl (fun _ h => h)
    rfl rfl rfl

lemma effect_setPhase {p : Phase} (hended : (s.phase conn).ended = true → p.ended = true)
    (hp : p ≠ .serving) : Effect s (s.setPhase conn p) where
  known hk := ⟨hk.indexed, hk.added, hk.duties⟩
  added := List.prefix_rfl
  ended c hc := by
    by_cases h : c = conn
    · subst h
      simpa [State.setPhase] using hended hc
    · simpa [State.setPhase, h] using hc
  timedOut c hc := hc
  cancelled c hc := .inl hc
  pumps c hc := by
    by_cases h : c = conn
    · subst h
      simp [State.setPhase, hp] at hc
    · exact .inr (.inr (.inr (.inr ⟨by simpa [State.setPhase, h] using hc, rfl⟩)))

lemma effect_setPump {p : Pump}
    (hp : p = .running ∨ p = .failed ∨ (s.box conn).cancelled = true) :
    Effect s (s.setPump conn p) where
  known hk := ⟨hk.indexed, hk.added, hk.duties⟩
  added := List.prefix_rfl
  ended c hc := hc
  timedOut c hc := hc
  cancelled c hc := .inl hc
  pumps c hc := by
    by_cases h : c = conn
    · subst h
      have heq : (s.setPump c p).pump c = p := by simp [State.setPump]
      rw [heq]
      rcases hp with hp | hp | hp
      · exact .inl hp
      · exact .inr (.inl hp)
      · exact .inr (.inr (.inl hp))
    · exact .inr (.inr (.inr (.inr ⟨hc, by simp [State.setPump, h]⟩)))

lemma effect_setBox {b : Outbox}
    (hb : b.cancelled = true → (s.box conn).cancelled = true ∨ Excused s conn) :
    Effect s (s.setBox conn b) where
  known hk := ⟨hk.indexed, hk.added, hk.duties⟩
  added := List.prefix_rfl
  ended c hc := hc
  timedOut c hc := hc
  cancelled c hc := by
    by_cases h : c = conn
    · subst h
      exact hb (by simpa [State.setBox] using hc)
    · exact .inl (by simpa [State.setBox, h] using hc)
  pumps c hc := .inr (.inr (.inr (.inr ⟨hc, rfl⟩)))

lemma effect_serve (hended : (s.phase conn).ended = false) :
    Effect s ((s.setPhase conn .serving).setPump conn .running) where
  known hk := ⟨hk.indexed, hk.added, hk.duties⟩
  added := List.prefix_rfl
  ended c hc := by
    by_cases h : c = conn
    · subst h
      rw [hended] at hc
      cases hc
    · simpa [State.setPhase, State.setPump, h] using hc
  timedOut c hc := hc
  cancelled c hc := .inl hc
  pumps c hc := by
    by_cases h : c = conn
    · subst h
      exact .inl (by simp [State.setPump])
    · refine .inr (.inr (.inr (.inr ⟨?_, by simp [State.setPump, State.setPhase, h]⟩)))
      simpa [State.setPhase, State.setPump, h] using hc

lemma writeMessage_cancelled (b : Outbox) (pick : Bool) (data : Json) :
    (b.writeMessage pick data).2.cancelled = b.cancelled := by
  simp only [Outbox.writeMessage]
  split_ifs <;> rfl

lemma effect_writeMessage {pick : Bool} {data : Json} : Effect s (s.writeMessage conn pick data) :=
  effect_setBox fun hb => .inl (by rwa [writeMessage_cancelled] at hb)

lemma effect_cancel (h : Excused s conn) : Effect s (s.cancel conn) := effect_setBox fun _ => .inr h

lemma sendRegister_hub {l l' : HubLoop} (h : l.sendRegister conn = some l') : l'.hub = l.hub := by
  rw [HubLoop.sendRegister_eq_some h]

lemma sendUnregister_hub {l l' : HubLoop} (h : l.sendUnregister conn = some l') :
    l'.hub = l.hub := by
  rw [HubLoop.sendUnregister_eq_some h]

lemma handler_effect {e : HandlerEvent} (h : s.handler conn e = some t) : Effect s t := by
  cases e with
  | newAgentConnection =>
    cases hp : s.phase conn <;> simp only [State.handler, hp, reduceCtorEq, Option.some.injEq] at h
    subst h
    exact effect_ping.trans (effect_setPhase (by simp [State.ping, hp, Phase.ended]) (by decide))
  | stamp =>
    cases hp : s.phase conn <;> simp only [State.handler, hp, reduceCtorEq, Option.some.injEq] at h
    all_goals
      subst h
      exact effect_ping.trans (effect_setPhase (by simp [State.ping, hp, Phase.ended]) (by decide))
  | register =>
    cases hp : s.phase conn <;>
      simp only [State.handler, hp, reduceCtorEq, Option.map_eq_some_iff] at h
    case stamped =>
      obtain ⟨l, hl, rfl⟩ := h
      exact (effect_setPhase (by simp [hp, Phase.ended]) (by decide)).trans
        (effect_loop (sendRegister_hub hl))
    case stampedAgain =>
      obtain ⟨l, hl, rfl⟩ := h
      exact (effect_serve (by simp [hp, Phase.ended])).trans (effect_loop (sendRegister_hub hl))
  | welcome pick draw =>
    cases hp : s.phase conn <;> simp only [State.handler, hp, reduceCtorEq] at h
    cases hm : newMessage draw msgServerWelcome (welcomePayload conn) with
    | none =>
      simp only [hm, Option.some.injEq] at h
      subst h
      exact effect_setPhase (by simp [hp, Phase.ended]) (by decide)
    | some msg =>
      simp only [hm, Option.some.injEq] at h
      subst h
      refine effect_writeMessage.trans (effect_setPhase ?_ (by decide))
      simp [State.writeMessage, State.setBox, hp, Phase.ended]
  | receive =>
    cases hp : s.phase conn <;> simp only [State.handler, hp, reduceCtorEq, Option.some.injEq] at h
    subst h
    exact effect_ping
  | readFails =>
    cases hp : s.phase conn <;> simp only [State.handler, hp, reduceCtorEq, Option.some.injEq] at h
    subst h
    exact effect_setPhase (fun _ => rfl) (by decide)
  | unregister =>
    cases hp : s.phase conn <;>
      simp only [State.handler, hp, reduceCtorEq, Option.map_eq_some_iff] at h
    obtain ⟨l, hl, rfl⟩ := h
    exact (effect_setPhase (fun _ => rfl) (by decide)).trans (effect_loop (sendUnregister_hub hl))
  | close =>
    cases hp : s.phase conn <;> simp only [State.handler, hp, reduceCtorEq, Option.some.injEq] at h
    subst h
    have hexc : Excused s conn := .inr (.inl (by rw [hp]; rfl))
    exact (effect_cancel hexc).trans (effect_setPhase (fun _ => rfl) (by decide))

lemma writePump_effect {e : PumpEvent} (h : s.writePump conn e = some t) : Effect s t := by
  by_cases hrun : s.pump conn = .running
  · simp only [State.writePump, hrun, ne_eq, not_true_eq_false, if_false] at h
    cases e with
    | write ok =>
      cases hq : (s.box conn).queued with
      | nil => simp [hq] at h
      | cons m rest =>
        simp only [hq, Option.some.injEq] at h
        have hbox : Effect s (s.setBox conn { s.box conn with queued := rest }) :=
          effect_setBox fun hb => .inl hb
        cases ok with
        | true => exact h ▸ hbox
        | false => exact h ▸ hbox.trans (effect_setPump (.inr (.inl rfl)))
    | ping ok =>
      simp only [Option.some.injEq] at h
      cases ok with
      | true => exact h ▸ effect_loop rfl
      | false => exact h ▸ effect_setPump (.inr (.inl rfl))
    | done =>
      simp only at h
      split_ifs at h with hc
      exact Option.some.inj h ▸ effect_setPump (.inr (.inr hc))
  · simp [State.writePump, hrun] at h

lemma effect_duties {rest : List Duty} (h : ∀ d ∈ rest, d ∈ s.duties) :
    Effect s { s with duties := rest } :=
  effect_frame (fun hk => ⟨hk.indexed, hk.added, fun c hc => hk.duties c (h _ hc)⟩)
    List.prefix_rfl (fun _ h => h) rfl rfl rfl

lemma duty_effect (hk : Known s) (h : s.duty = some t) : Effect s t := by
  simp only [State.duty] at h
  cases hd : s.duties with
  | nil => simp [hd] at h
  | cons d rest =>
    have hrest : ∀ d' ∈ rest, d' ∈ s.duties := by
      rw [hd]
      exact fun d' hd' => List.mem_cons_of_mem _ hd'
    cases d with
    | unregister c =>
      simp only [hd, Option.map_eq_some_iff] at h
      obtain ⟨l, hl, rfl⟩ := h
      exact (effect_duties hrest).trans (effect_loop (sendUnregister_hub hl))
    | close c =>
      simp only [hd, Option.some.injEq] at h
      subst h
      have hexc : Excused s c := .inr (.inr (hk.duties c (by rw [hd]; exact List.mem_cons_self)))
      exact (effect_cancel hexc).trans (effect_duties hrest)

lemma known_add {rest : List AgentConnection} (hk : Known s) : Known { s with
    loop := { s.loop with hub := (s.loop.hub.add conn).2, register := rest }
    added := s.added ++ [conn] } where
  indexed := hk.indexed.add conn
  added c hc := by
    rcases Registrations.current_of_add hc with rfl | hcur
    · exact List.mem_append_right _ (List.mem_singleton_self _)
    · exact List.mem_append_left _ (hk.added c hcur)
  duties := hk.duties

lemma takeRegister_effect (hk : Known s) (hg : Replaces s .takeRegister)
    (h : step s .takeRegister = some t) : Effect s t := by
  obtain ⟨⟨conn, existing, l⟩, hl, rfl⟩ := Option.map_eq_some_iff.mp h
  obtain ⟨rest, hq, he, rfl⟩ := HubLoop.takeRegister_eq_some hl
  have hadd : Effect s { s with
      loop := { s.loop with hub := (s.loop.hub.add conn).2, register := rest }
      added := s.added ++ [conn] } :=
    effect_frame known_add (List.prefix_append _ _) (fun _ h => h) rfl rfl rfl
  cases existing with
  | none => exact hadd
  | some e =>
    refine hadd.trans (effect_cancel ?_)
    by_cases hne : e = conn
    · subst hne
      have hcur : Current s.loop.hub e := he.symm
      exact (hg e (by rw [hq]; rfl) hcur).mono hadd
    · -- the connection that is added excuses the one that it replaces
      have hid : e.agentID = conn.agentID := hk.indexed.keyed conn.agentID e he.symm
      have hcur : Current s.loop.hub e := by
        rw [Current, hid]
        exact he.symm
      have hbefore : [e].Sublist s.added := List.singleton_sublist.mpr (hk.added e hcur)
      exact .inl ⟨conn, Ne.symm hne, hid.symm, hbefore.append (List.Sublist.refl [conn])⟩

lemma takeUnregister_effect (h : step s .takeUnregister = some t) : Effect s t := by
  obtain ⟨l, hl, rfl⟩ := Option.map_eq_some_iff.mp h
  obtain ⟨conn, rest, -, rfl⟩ := HubLoop.takeUnregister_eq_some hl
  refine effect_frame (fun hk => ⟨hk.indexed.remove conn, fun c hc => ?_, hk.duties⟩)
    List.prefix_rfl (fun _ h => h) rfl rfl rfl
  exact hk.added c (Registrations.current_of_remove hc).2

lemma checkHeartbeats_effect {order : Table.RangeOrder Bytes}
    (h : step s (.checkHeartbeats order) = some t) : Effect s t := by
  simp only [step] at h
  split_ifs at h
  obtain rfl := Option.some.inj h
  refine effect_frame ?_ List.prefix_rfl (fun _ h => List.mem_append_left _ h) rfl rfl rfl
  intro hk
  refine ⟨hk.indexed, hk.added, ?_⟩
  intro c hc
  obtain ⟨e, he, hce⟩ := List.mem_flatMap.mp hc
  obtain rfl : c = e := by simpa using hce
  exact List.mem_append_right _ he

lemma step_effect {a : Action} (hk : Known s) (hg : Replaces s a) (h : step s a = some t) :
    Effect s t := by
  cases a with
  | handler conn e => exact handler_effect h
  | pump conn e => exact writePump_effect h
  | send conn pick data => exact Option.some.inj h ▸ effect_writeMessage
  | takeRegister => exact takeRegister_effect hk hg h
  | takeUnregister => exact takeUnregister_effect h
  | checkHeartbeats order => exact checkHeartbeats_effect h
  | duty => exact duty_effect hk h
  | tick elapsed =>
    exact Option.some.inj h ▸ effect_frame (fun hk => ⟨hk.indexed, hk.added, hk.duties⟩)
      List.prefix_rfl (fun _ h => h) rfl rfl rfl

lemma replaces_of_justified {a : Action} (h : step s a = some t) (ht : Justified t) :
    Replaces s a := by
  cases a with
  | takeRegister =>
    intro c hc hcur
    simp only [step, HubLoop.takeRegister] at h
    cases hq : s.loop.register with
    | nil => simp [hq] at hc
    | cons conn rest =>
      rw [hq, List.head?_cons, Option.some.injEq] at hc
      subst hc
      have he : (s.loop.hub.add conn).1 = some conn := hcur
      simp only [hq, Option.map_some, Option.some.injEq, he] at h
      subst h
      have hexc := ht.contexts conn (by simp [State.cancel, State.setBox])
      rcases hexc with ⟨d, hne, hid, hafter⟩ | hended | hout
      · -- what is added now is the connection itself, so the other one was there before
        have hbefore : [conn, d].Sublist s.added := by
          obtain ⟨l, l', heq, hl, hl'⟩ := List.sublist_append_iff.mp hafter
          rcases List.sublist_singleton.mp hl' with rfl | rfl
          · rwa [heq, List.append_nil]
          · have hlast := congrArg List.getLast? heq
            rw [List.getLast?_concat] at hlast
            exact absurd (Option.some.inj hlast) hne
        exact .inl ⟨d, hne, hid, hbefore⟩
      · exact .inr (.inl hended)
      · exact .inr (.inr hout)
  | _ => trivial

lemma known_start : Known start where
  indexed := indexed_newHub
  added c hc := by simp [Current, Hub.get, start, HubLoop.init, newHub] at hc
  duties c hc := by simp [start] at hc

lemma justified_start : Justified start where
  contexts c hc := by simp [start] at hc
  pumps c hc := by simp [start] at hc

end Steps

theorem sessions_live (as : List Action) :
    Always step Justified start as ↔ Guarded step Replaces start as := by
  apply always_iff_guarded justified_start known_start
  intro s a t hs hk h
  constructor
  · constructor
    · exact replaces_of_justified h
    · exact fun hg => (step_effect hk hg h).justified hs
  · exact fun ht => (step_effect hk (replaces_of_justified h ht) h).known hk

def oneAgent : List Action :=
  [.handler firstConnection .newAgentConnection, .handler firstConnection .stamp,
    .handler firstConnection .register, .handler firstConnection (.welcome true ⟨some [], []⟩),
    .handler firstConnection .stamp, .handler firstConnection .register, .takeRegister,
    .takeRegister]

theorem sessions_live_fails :
    ∃ s t, run step start oneAgent = some s ∧ s.loop.register = [] ∧
      (s.box firstConnection).cancelled = true ∧ ¬ Excused s firstConnection ∧
      step s (.pump firstConnection .done) = some t ∧ t.pump firstConnection = .stopped := by
  refine ⟨_, _, rfl, rfl, rfl, ?_, rfl, rfl⟩
  rintro (⟨d, hne, _, hafter⟩ | hended | hout)
  · have hmem : d ∈ [firstConnection, firstConnection] := hafter.subset (by simp)
    simp only [List.mem_cons, List.not_mem_nil, or_false, or_self] at hmem
    exact hne hmem
  · exact absurd hended (by decide)
  · exact absurd hout (by decide)

end OmniTun.Gateway.Sessions
