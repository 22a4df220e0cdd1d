import OmniTun.Gateway.Sessions

/-! The messages that the gateway's callers send to agents: a caller finds the connections under the
lock and then writes to one after the other, while connections come and go. -/

namespace OmniTun.Gateway.Delivery

open OmniTun.Foundation OmniTun.Foundation.Transition HubIndex Sessions

inductive Call
  | sendToAgent (agentID msgType : Bytes) (payload : Payload)
  | broadcastToOrg (orgID msgType : Bytes) (payload : Payload)

def Call.message (draw : Draw) : Call → Option WSMessage
  | .sendToAgent _ msgType payload => newMessage draw msgType payload
  | .broadcastToOrg _ msgType payload => newMessage draw msgType payload

def Call.targets (order : Table.RangeOrder Bytes) (h : Hub) : Call → List AgentConnection
  | .sendToAgent agentID _ _ => (h.get agentID).toList
  | .broadcastToOrg orgID _ _ => h.getAgentsByOrg order orgID

def Call.IsFor (c : AgentConnection) : Call → Prop
  | .sendToAgent agentID _ _ => c.agentID = agentID
  | .broadcastToOrg orgID _ _ => orgID ≠ [] ∧ c.orgID = orgID

instance (c : AgentConnection) : (call : Call) → Decidable (call.IsFor c)
  | .sendToAgent .. => inferInstanceAs (Decidable (_ = _))
  | .broadcastToOrg .. => inferInstanceAs (Decidable (_ ∧ _))

inductive Caller
  | called
  | writing (conns : List AgentConnection)
  | returned (err : Option SendError)

/-- What got into each channel, with the caller it came from if it was not the handler, and what the
write pumps have written. -/
structure State (ι : Type*) where
  gateway : Sessions.State
  caller : ι → Caller
  accepted : AgentConnection → List (Option ι × Json)
  wire : AgentConnection → List Json

inductive Action (ι : Type*)
  | gateway (a : Sessions.Action)
  | look (i : ι) (order : Table.RangeOrder Bytes)
  | write (i : ι) (pick : Bool) (draw : Draw)

def sends : Sessions.Action → Bool
  | .send .. => true
  | _ => false

def turn (call : Call) (pick : Bool) (draw : Draw) (g : Sessions.State) :
    List AgentConnection → Caller × Sessions.State
  | [] => (.returned none, g)
  | c :: rest =>
    match call, call.message draw with
    | .sendToAgent .., none => (.returned (some .message), g)
    | .sendToAgent .., some msg =>
      (.returned (((g.box c).writeMessage pick msg.marshal).1.map .context),
        g.writeMessage c pick msg.marshal)
    | .broadcastToOrg .., none => (.writing rest, g)
    | .broadcastToOrg .., some msg => (.writing rest, g.writeMessage c pick msg.marshal)

def entered (g g' : Sessions.State) (c : AgentConnection) : List Json :=
  (g'.box c).queued.drop (g.box c).queued.length

def written (g : Sessions.State) : Sessions.Action → AgentConnection → List Json
  | .pump conn (.write true), c => if c = conn then (g.box conn).queued.take 1 else []
  | _, _ => []

section

variable {ι : Type*}

def start : State ι := ⟨Sessions.start, fun _ => .called, fun _ => [], fun _ => []⟩

def State.note (s : State ι) (source : Option ι) (g : Sessions.State) : State ι :=
  { s with
    gateway := g
    accepted := fun c => s.accepted c ++ (entered s.gateway g c).map fun m => (source, m) }

variable [DecidableEq ι]

def step (calls : ι → Call) (s : State ι) : Action ι → Option (State ι)
  | .gateway a =>
    if sends a then none
    else (Sessions.step s.gateway a).map fun g =>
      { s.note none g with wire := fun c => s.wire c ++ written s.gateway a c }
  | .look i order =>
    match s.caller i with
    | .called => some { s with
        caller := Function.update s.caller i
          (.writing ((calls i).targets order s.gateway.loop.hub)) }
    | _ => none
  | .write i pick draw =>
    match s.caller i with
    | .writing conns =>
      let r := turn (calls i) pick draw s.gateway conns
      some { s.note (some i) r.2 with caller := Function.update s.caller i r.1 }
    | _ => none

end

/-! What one step of the gateway does to a channel. -/

section Steps

variable {g g' : Sessions.State} {a : Sessions.Action} {c conn : AgentConnection}

def Takes (b : Outbox) (pick : Bool) : Prop :=
  b.queued.length < sendChannelBuffer ∧ (b.cancelled = false ∨ pick = true)

instance (b : Outbox) (pick : Bool) : Decidable (Takes b pick) :=
  inferInstanceAs (Decidable (_ ∧ _))

lemma writeMessage_queued (b : Outbox) (pick : Bool) (m : Json) :
    (b.writeMessage pick m).2.queued = b.queued ++ if Takes b pick then [m] else [] := by
  have hif : (if Takes b pick then [m] else []) = if b.queued.length < sendChannelBuffer ∧
      (b.cancelled = false ∨ pick = true) then [m] else [] := rfl
  rw [hif]
  unfold Outbox.writeMessage
  split_ifs <;> simp

lemma queued_writeMessage (g : Sessions.State) (conn : AgentConnection) (pick : Bool) (m : Json)
    (c : AgentConnection) :
    ((g.writeMessage conn pick m).box c).queued =
      (g.box c).queued ++ if c = conn ∧ Takes (g.box conn) pick then [m] else [] := by
  by_cases hc : c = conn
  · subst hc
    simp [State.writeMessage, State.setBox, writeMessage_queued]
  · simp [State.writeMessage, State.setBox, hc]

lemma entered_writeMessage (pick : Bool) (m : Json) :
    entered g (g.writeMessage conn pick m) c =
      if c = conn ∧ Takes (g.box conn) pick then [m] else [] := by
  rw [entered, queued_writeMessage, List.drop_left]

inductive Change (g g' : Sessions.State) (a : Sessions.Action) (c : AgentConnection) : Prop
  | same (hq : (g'.box c).queued = (g.box c).queued) (hw : written g a c = [])
  | welcome (pick : Bool) (draw : Draw) (msg : WSMessage)
    (ha : a = .handler c (.welcome pick draw))
    (hm : newMessage draw msgServerWelcome (welcomePayload c) = some msg)
    (hq : (g'.box c).queued = (g.box c).queued ++ [msg.marshal])
  | write (ok : Bool) (m : Json) (rest : List Json) (ha : a = .pump c (.write ok))
    (hp : g.pump c = .running) (hm : (g.box c).queued = m :: rest)
    (hq : (g'.box c).queued = rest) (hp' : g'.pump c = if ok then .running else .failed)

lemma queued_cancel (g : Sessions.State) (conn c : AgentConnection) :
    ((g.cancel conn).box c).queued = (g.box c).queued := by
  by_cases hc : c = conn
  · subst hc
    simp [State.cancel, State.setBox]
  · simp [State.cancel, State.setBox, hc]

lemma handler_change {e : HandlerEvent} (h : g.handler conn e = some g') :
    Change g g' (.handler conn e) c := by
  cases e with
  | welcome pick draw =>
    cases hp : g.phase conn <;> simp only [State.handler, hp, reduceCtorEq] at h
    cases hm : newMessage draw msgServerWelcome (welcomePayload conn) with
    | none =>
      simp only [hm, Option.some.injEq] at h
      exact .same (h ▸ rfl) rfl
    | some msg =>
      simp only [hm, Option.some.injEq] at h
      subst h
      have hq := queued_writeMessage g conn pick msg.marshal c
      split_ifs at hq with hc
      · obtain ⟨rfl, -⟩ := hc
        exact .welcome pick draw msg rfl hm hq
      · exact .same (hq.trans (List.append_nil _)) rfl
  | register =>
    cases hp : g.phase conn <;>
      simp only [State.handler, hp, reduceCtorEq, Option.map_eq_some_iff] at h
    all_goals
      obtain ⟨l, -, rfl⟩ := h
      exact .same rfl rfl
  | unregister =>
    cases hp : g.phase conn <;>
      simp only [State.handler, hp, reduceCtorEq, Option.map_eq_some_iff] at h
    obtain ⟨l, -, rfl⟩ := h
    exact .same rfl rfl
  | close =>
    cases hp : g.phase conn <;> simp only [State.handler, hp, reduceCtorEq, Option.some.injEq] at h
    exact .same (h ▸ queued_cancel g conn c) rfl
  | _ =>
    cases hp : g.phase conn <;> simp only [State.handler, hp, reduceCtorEq, Option.some.injEq] at h
    all_goals exact .same (h ▸ rfl) rfl

lemma pump_change {e : PumpEvent} (h : g.writePump conn e = some g') :
    Change g g' (.pump conn e) c := by
  by_cases hrun : g.pump conn = .running
  · simp only [State.writePump, hrun, ne_eq, not_true_eq_false, if_false] at h
    cases e with
    | write ok =>
      cases hq : (g.box conn).queued with
      | nil => simp [hq] at h
      | cons m rest =>
        simp only [hq, Option.some.injEq] at h
        by_cases hc : c = conn
        · subst hc
          refine .write ok m rest rfl hrun hq ?_ ?_
          · rw [← h]
            cases ok <;> simp [State.setBox, State.setPump]
          · rw [← h]
            cases ok <;> simp [State.setBox, State.setPump, hrun]
        · refine .same ?_ ?_
          · rw [← h]
            cases ok <;> simp [State.setBox, State.setPump, hc]
          · cases ok <;> simp [written, hc]
    | ping ok =>
      cases ok <;> exact .same (Option.some.inj h ▸ rfl) rfl
    | done =>
      simp only at h
      split_ifs at h
      exact .same (Option.some.inj h ▸ rfl) rfl
  · simp [State.writePump, hrun] at h

lemma change (h : Sessions.step g a = some g') (hs : sends a = false) (c : AgentConnection) :
    Change g g' a c := by
  cases a with
  | handler conn e => exact handler_change h
  | pump conn e => exact pump_change h
  | send => cases hs
  | takeRegister =>
    obtain ⟨⟨conn, existing, l⟩, -, rfl⟩ := Option.map_eq_some_iff.mp h
    cases existing with
    | none => exact .same rfl rfl
    | some e => exact .same (queued_cancel _ e c) rfl
  | takeUnregister =>
    obtain ⟨l, -, rfl⟩ := Option.map_eq_some_iff.mp h
    exact .same rfl rfl
  | checkHeartbeats order =>
    simp only [Sessions.step] at h
    split_ifs at h
    obtain rfl := Option.some.inj h
    exact .same rfl rfl
  | duty =>
    simp only [Sessions.step, State.duty] at h
    split at h
    next => cases h
    next =>
      obtain ⟨l, -, rfl⟩ := Option.map_eq_some_iff.mp h
      exact .same rfl rfl
    next d rest hd =>
      obtain rfl := Option.some.inj h
      exact .same (queued_cancel g d c) rfl
  | tick => exact .same (Option.some.inj h ▸ rfl) rfl

def Begun (p : Phase) : Prop := p = .serving ∨ p.ended = true

inductive Pumped (g g' : Sessions.State) (c : AgentConnection) : Prop
  | same (hp : g'.pump c = g.pump c) (hb : Begun (g.phase c) → Begun (g'.phase c))
  | started (hp : g.phase c = .stampedAgain) (hb : Begun (g'.phase c)) (hr : g'.pump c = .running)
  | ran (hp : g.pump c = .running) (hb : g'.phase c = g.phase c) (hi : g'.pump c ≠ .idle)

lemma pumped_of_phase (conn : AgentConnection) (p : Phase) (hpump : g'.pump = g.pump)
    (hphase : g'.phase = Function.update g.phase conn p) (hp : Begun (g.phase conn) → Begun p) :
    Pumped g g' c := by
  refine .same (by rw [hpump]) fun hb => ?_
  rw [hphase]
  by_cases hc : c = conn
  · subst hc
    simpa using hp hb
  · simpa [hc] using hb

lemma handler_pumped {e : HandlerEvent} (h : g.handler conn e = some g') (c : AgentConnection) :
    Pumped g g' c := by
  cases e with
  | register =>
    cases hp : g.phase conn <;>
      simp only [State.handler, hp, reduceCtorEq, Option.map_eq_some_iff] at h
    case stamped =>
      obtain ⟨l, -, rfl⟩ := h
      refine pumped_of_phase conn .registered rfl rfl ?_
      simp [hp, Begun, Phase.ended]
    case stampedAgain =>
      obtain ⟨l, -, rfl⟩ := h
      by_cases hc : c = conn
      · subst hc
        exact .started hp (by simp [State.setPump, State.setPhase, Begun])
          (by simp [State.setPump])
      · refine .same (by simp [State.setPump, State.setPhase, hc]) fun hb => ?_
        simpa [State.setPump, State.setPhase, hc] using hb
  | welcome pick draw =>
    cases hp : g.phase conn <;> simp only [State.handler, hp, reduceCtorEq] at h
    split at h
    all_goals
      obtain rfl := Option.some.inj h
      refine pumped_of_phase conn .welcomed rfl rfl ?_
      simp [hp, Begun, Phase.ended]
  | receive =>
    cases hp : g.phase conn <;> simp only [State.handler, hp, reduceCtorEq, Option.some.injEq] at h
    exact .same (h ▸ rfl) (h ▸ id)
  | unregister =>
    cases hp : g.phase conn <;>
      simp only [State.handler, hp, reduceCtorEq, Option.map_eq_some_iff] at h
    obtain ⟨l, -, rfl⟩ := h
    exact pumped_of_phase conn .unregistered rfl rfl fun _ => .inr rfl
  | _ =>
    cases hp : g.phase conn <;> simp only [State.handler, hp, reduceCtorEq, Option.some.injEq] at h
    all_goals
      subst h
      refine pumped_of_phase conn _ rfl rfl ?_
      simp [hp, Begun, Phase.ended]

lemma pump_pumped {e : PumpEvent} (h : g.writePump conn e = some g') (c : AgentConnection) :
    Pumped g g' c := by
  by_cases hrun : g.pump conn = .running
  · have hother : ∀ p, g'.pump = Function.update g.pump conn p → g'.phase = g.phase →
        p ≠ .idle → Pumped g g' c := by
      intro p hp hphase hidle
      by_cases hc : c = conn
      · subst hc
        exact .ran hrun (by rw [hphase]) (by simpa [hp] using hidle)
      · exact .same (by simp [hp, hc]) (by rw [hphase]; exact id)
    have hkeep : g'.pump = g.pump → g'.phase = g.phase → Pumped g g' c :=
      fun hp hphase => .same (by rw [hp]) (by rw [hphase]; exact id)
    simp only [State.writePump, hrun, ne_eq, not_true_eq_false, if_false] at h
    cases e with
    | write ok =>
      cases hq : (g.box conn).queued with
      | nil => simp [hq] at h
      | cons m rest =>
        simp only [hq, Option.some.injEq] at h
        subst h
        cases ok with
        | true => exact hkeep rfl rfl
        | false => exact hother .failed rfl rfl (by decide)
    | ping ok =>
      obtain rfl := Option.some.inj h
      cases ok with
      | true => exact hkeep rfl rfl
      | false => exact hother .failed rfl rfl (by decide)
    | done =>
      simp only at h
      split_ifs at h
      obtain rfl := Option.some.inj h
      exact hother .stopped rfl rfl (by decide)
  · simp [State.writePump, hrun] at h

lemma pumped (h : Sessions.step g a = some g') (c : AgentConnection) : Pumped g g' c := by
  have hsame : ∀ {k : Sessions.State}, k.pump = g.pump → k.phase = g.phase → Pumped g k c :=
    fun hp hph => .same (by rw [hp]) (by rw [hph]; exact id)
  cases a with
  | handler conn e => exact handler_pumped h c
  | pump conn e => exact pump_pumped h c
  | send => exact hsame (Option.some.inj h ▸ rfl) (Option.some.inj h ▸ rfl)
  | takeRegister =>
    obtain ⟨⟨conn, existing, l⟩, -, rfl⟩ := Option.map_eq_some_iff.mp h
    cases existing <;> exact hsame rfl rfl
  | takeUnregister =>
    obtain ⟨l, -, rfl⟩ := Option.map_eq_some_iff.mp h
    exact hsame rfl rfl
  | checkHeartbeats order =>
    simp only [Sessions.step] at h
    split_ifs at h
    exact hsame (Option.some.inj h ▸ rfl) (Option.some.inj h ▸ rfl)
  | duty =>
    simp only [Sessions.step, State.duty] at h
    split at h
    next => cases h
    next =>
      obtain ⟨l, -, rfl⟩ := Option.map_eq_some_iff.mp h
      exact hsame rfl rfl
    next => exact hsame (Option.some.inj h ▸ rfl) (Option.some.inj h ▸ rfl)
  | tick => exact hsame (Option.some.inj h ▸ rfl) (Option.some.inj h ▸ rfl)

end Steps

/-! The order of the messages of a connection. -/

section Order

variable {ι : Type*} {s s' : State ι} {g : Sessions.State} {c : AgentConnection} {lost : List Json}

/-- What got into the channel has been written, is the message whose write failed, or waits. -/
structure Ordered (s : State ι) (c : AgentConnection) (lost : List Json) : Prop where
  begun : s.gateway.pump c ≠ .idle → Begun (s.gateway.phase c)
  accepted : (s.accepted c).map Prod.snd = s.wire c ++ lost ++ (s.gateway.box c).queued
  one : lost.length ≤ 1
  failed : lost ≠ [] → s.gateway.pump c = .failed

lemma not_begun_stampedAgain : ¬ Begun .stampedAgain := by
  simp [Begun, Phase.ended]

lemma Ordered.pumped_begun (h : Ordered s c lost) (hp : Pumped s.gateway g c) :
    g.pump c ≠ .idle → Begun (g.phase c) := by
  intro hidle
  cases hp with
  | same hp hb => exact hb (h.begun (hp ▸ hidle))
  | started hp hb hr => exact hb
  | ran hp hb hi =>
    rw [hb]
    exact h.begun (by simp [hp])

lemma Ordered.pumped_failed (h : Ordered s c lost) (hp : Pumped s.gateway g c) :
    lost ≠ [] → g.pump c = .failed := by
  intro hne
  have hfailed := h.failed hne
  cases hp with
  | same hp hb => rw [hp, hfailed]
  | started hp hb hr =>
    have hbegun := h.begun (by simp [hfailed])
    rw [hp] at hbegun
    exact absurd hbegun not_begun_stampedAgain
  | ran hp hb hi =>
    rw [hfailed] at hp
    cases hp

lemma note_accepted (s : State ι) (source : Option ι) {ms : List Json}
    (hq : (g.box c).queued = (s.gateway.box c).queued ++ ms) :
    (s.note source g).accepted c = s.accepted c ++ ms.map fun m => (source, m) := by
  simp only [State.note, entered, hq, List.drop_left]

lemma map_snd_tag (source : Option ι) (ms : List Json) :
    (ms.map fun m => (source, m)).map Prod.snd = ms := by
  rw [List.map_map]
  exact List.map_id _

lemma Ordered.note (h : Ordered s c lost) (source : Option ι) (hp : Pumped s.gateway g c)
    {ms : List Json} (hq : (g.box c).queued = (s.gateway.box c).queued ++ ms) :
    Ordered (s.note source g) c lost where
  begun := h.pumped_begun hp
  accepted := by
    rw [note_accepted s source hq, List.map_append, map_snd_tag, h.accepted, List.append_assoc]
    exact congrArg _ hq.symm
  one := h.one
  failed := h.pumped_failed hp

lemma Ordered.gateway {a : Sessions.Action} (h : Ordered s c lost)
    (hstep : Sessions.step s.gateway a = some g) (hs : sends a = false) :
    ∃ lost', Ordered { s.note none g with wire := fun c => s.wire c ++ written s.gateway a c } c
      lost' := by
  have hp := pumped hstep c
  cases change hstep hs c with
  | same hq hw =>
    have hn := h.note none hp (hq.trans (List.append_nil _).symm)
    refine ⟨lost, hn.begun, ?_, hn.one, hn.failed⟩
    simp only [hw, List.append_nil]
    exact hn.accepted
  | welcome pick draw msg ha hm hq =>
    subst ha
    have hn := h.note none hp hq
    refine ⟨lost, hn.begun, ?_, hn.one, hn.failed⟩
    simp only [written, List.append_nil]
    exact hn.accepted
  | write ok m rest ha hrun hm hq hp' =>
    subst ha
    have hlost : lost = [] := by
      by_contra hne
      have hfailed := h.failed hne
      rw [hrun] at hfailed
      cases hfailed
    have hnone : entered s.gateway g c = [] := by
      rw [entered, hq, hm]
      simp
    have hacc := h.accepted
    rw [hlost, hm] at hacc
    cases ok with
    | true =>
      refine ⟨[], h.pumped_begun hp, ?_, Nat.zero_le _, fun hne => absurd rfl hne⟩
      simp only [State.note, hnone, written, hm, hq]
      simpa using hacc
    | false =>
      refine ⟨[m], h.pumped_begun hp, ?_, Nat.le_refl _, fun _ => hp'⟩
      simp only [State.note, hnone, written, hq]
      simpa using hacc

variable [DecidableEq ι] {calls : ι → Call}

lemma turn_cases (call : Call) (pick : Bool) (draw : Draw) (g : Sessions.State)
    (conns : List AgentConnection) :
    (turn call pick draw g conns).2 = g ∨
      ∃ c rest msg, conns = c :: rest ∧ call.message draw = some msg ∧
        (turn call pick draw g conns).2 = g.writeMessage c pick msg.marshal := by
  cases conns with
  | nil => exact .inl rfl
  | cons c rest =>
    unfold turn
    cases call <;> cases hm : Call.message draw _ <;> simp

omit [DecidableEq ι] in
lemma Ordered.turn (h : Ordered s c lost) (call : Call) (source : Option ι) (pick : Bool)
    (draw : Draw) (conns : List AgentConnection) :
    Ordered (s.note source (turn call pick draw s.gateway conns).2) c lost := by
  rcases turn_cases call pick draw s.gateway conns with heq | ⟨conn, rest, msg, -, -, heq⟩
  · rw [heq]
    exact h.note source (.same rfl id) (List.append_nil _).symm
  · rw [heq]
    exact h.note source (.same rfl id) (queued_writeMessage s.gateway conn pick msg.marshal c)

lemma Ordered.step {a : Action ι} (h : Ordered s c lost) (hstep : step calls s a = some s') :
    ∃ lost', Ordered s' c lost' := by
  cases a with
  | gateway a =>
    simp only [Delivery.step] at hstep
    split_ifs at hstep with hs
    obtain ⟨g, hg, rfl⟩ := Option.map_eq_some_iff.mp hstep
    exact h.gateway hg (by simpa using hs)
  | look i order =>
    simp only [Delivery.step] at hstep
    split at hstep
    next =>
      obtain rfl := Option.some.inj hstep
      exact ⟨lost, h.begun, h.accepted, h.one, h.failed⟩
    next => cases hstep
  | write i pick draw =>
    simp only [Delivery.step] at hstep
    split at hstep
    next conns hc =>
      obtain rfl := Option.some.inj hstep
      have hn := h.turn (calls i) (some i) pick draw conns
      exact ⟨lost, hn.begun, hn.accepted, hn.one, hn.failed⟩
    next => cases hstep

lemma ordered_run {as : List (Action ι)} (hr : run (Delivery.step calls) start as = some s)
    (c : AgentConnection) : ∃ lost, Ordered s c lost := by
  have hinit : ∃ lost, Ordered (start : State ι) c lost :=
    ⟨[], fun h => absurd rfl h, rfl, Nat.zero_le _, fun h => absurd rfl h⟩
  exact run_invariant (P := fun s => ∃ lost, Ordered s c lost) hinit hr
    fun s a t ⟨lost, h⟩ hstep => h.step hstep

/-- In every run, what a connection's channel accepted is written to its websocket in the order in
which it was accepted, each message once; but for the one whose write failed, the rest waits. -/
theorem written_in_order (calls : ι → Call) (as : List (Action ι))
    (hr : run (step calls) start as = some s) (c : AgentConnection) :
    ∃ lost, (s.accepted c).map Prod.snd = s.wire c ++ lost ++ (s.gateway.box c).queued ∧
      lost.length ≤ 1 ∧ (lost ≠ [] → s.gateway.pump c = .failed) := by
  obtain ⟨lost, h⟩ := ordered_run hr c
  exact ⟨lost, h.accepted, h.one, h.failed⟩

end Order

def connect : List (Action Bool) :=
  [.gateway (.handler firstConnection .newAgentConnection),
    .gateway (.handler firstConnection .stamp), .gateway (.handler firstConnection .register),
    .gateway .takeRegister, .gateway (.handler firstConnection (.welcome true ⟨some [], []⟩)),
    .gateway (.handler firstConnection .stamp), .gateway (.handler firstConnection .register),
    .gateway (.pump firstConnection (.write true))]

def stopCalls (b : Bool) : Call :=
  if b then .sendToAgent (ascii "agent") msgServerTunnelStopCmd .absent
  else .broadcastToOrg (ascii "blue") msgServerShutdown .absent

def stop : List (Action Bool) := [.look true .byCode, .write true true ⟨some [], []⟩]

theorem written_in_order_stop :
    ∃ s, run (step stopCalls) start (connect ++ stop) = some s ∧
      ∃ lost, (s.accepted firstConnection).map Prod.snd =
          s.wire firstConnection ++ lost ++ (s.gateway.box firstConnection).queued ∧
        lost.length ≤ 1 ∧ (lost ≠ [] → s.gateway.pump firstConnection = .failed) :=
  ⟨_, rfl, written_in_order stopCalls (connect ++ stop) rfl firstConnection⟩

/-! Whom the messages reach. -/

section Reach

variable {ι : Type*} [DecidableEq ι] {s s' : State ι} {g : Sessions.State} {c : AgentConnection}
  {call : Call} {i j : ι} {seen rest got conns : List AgentConnection} {calls : ι → Call}

def received (s : State ι) (i : ι) (c : AgentConnection) : ℕ :=
  (s.accepted c).countP fun e => e.1 = some i

lemma known_step {a : Sessions.Action} (hk : Known g) {g' : Sessions.State}
    (h : Sessions.step g a = some g') : Known g' := by
  cases a with
  | handler conn e => exact (handler_effect h).known hk
  | pump conn e => exact (writePump_effect h).known hk
  | send conn pick data => exact Option.some.inj h ▸ effect_writeMessage.known hk
  | takeRegister =>
    obtain ⟨⟨conn, existing, l⟩, hl, rfl⟩ := Option.map_eq_some_iff.mp h
    obtain ⟨rest, -, -, rfl⟩ := HubLoop.takeRegister_eq_some hl
    obtain ⟨hindexed, hadded, hduties⟩ := known_add hk
    cases existing <;> exact ⟨hindexed, hadded, hduties⟩
  | takeUnregister => exact (takeUnregister_effect h).known hk
  | checkHeartbeats order => exact (checkHeartbeats_effect h).known hk
  | duty => exact (duty_effect hk h).known hk
  | tick elapsed => exact Option.some.inj h ▸ ⟨hk.indexed, hk.added, hk.duties⟩

lemma targets_spec {h : Hub} (hi : Indexed h) (order : Table.RangeOrder Bytes) (call : Call) :
    (call.targets order h).Nodup ∧
      ∀ c, c ∈ call.targets order h ↔ Current h c ∧ call.IsFor c := by
  cases call with
  | sendToAgent agentID msgType payload =>
    have htargets : Call.targets order h (.sendToAgent agentID msgType payload) =
      (h.get agentID).toList := rfl
    rw [htargets]
    constructor
    · cases h.get agentID <;> simp
    · intro c
      simp only [Option.mem_toList, Call.IsFor, Current]
      constructor
      · intro hc
        obtain rfl := hi.keyed agentID c hc
        exact ⟨hc, rfl⟩
      · rintro ⟨hc, rfl⟩
        exact hc
  | broadcastToOrg orgID msgType payload =>
    have htargets : Call.targets order h (.broadcastToOrg orgID msgType payload) =
      h.getAgentsByOrg order orgID := rfl
    rw [htargets]
    by_cases ho : orgID = []
    · subst ho
      rw [getAgentsByOrg_nil order hi]
      simp [Call.IsFor]
    · refine ⟨nodup_getAgentsByOrg order hi ho, fun c => ?_⟩
      rw [mem_getAgentsByOrg hi ho]
      simp [Call.IsFor, ho]

structure Turns (call : Call) (s : State ι) (i : ι) (seen rest got : List AgentConnection) :
    Prop where
  nodup : (seen ++ rest).Nodup
  mine : ∀ c ∈ seen ++ rest, call.IsFor c
  single : ∀ id t p, call = .sendToAgent id t p → (seen ++ rest).length ≤ 1
  sub : got.Sublist seen
  count : ∀ c, received s i c = if c ∈ got then 1 else 0

lemma received_note (s : State ι) (source : Option ι) (g : Sessions.State) (i : ι)
    (c : AgentConnection) : received (s.note source g) i c =
      received s i c + if source = some i then (entered s.gateway g c).length else 0 := by
  simp only [received, State.note, List.countP_append, List.countP_map]
  split_ifs with hsource
  · subst hsource
    congr 1
    exact List.countP_eq_length.mpr fun m _ => by simp
  · congr 1
    exact List.countP_eq_zero.mpr fun m _ => by simpa using hsource

lemma entered_self (g : Sessions.State) (c : AgentConnection) : entered g g c = [] :=
  List.drop_length ..

lemma Turns.skip (h : Turns call s i seen (c :: rest) got) :
    Turns call (s.note (some i) s.gateway) i (seen ++ [c]) rest got where
  nodup := by simpa using h.nodup
  mine := by simpa using h.mine
  single := by simpa using h.single
  sub := h.sub.trans (List.sublist_append_left _ _)
  count d := by
    rw [received_note, entered_self, h.count d]
    simp

lemma Turns.write (h : Turns call s i seen (c :: rest) got) (pick : Bool) (m : Json) :
    Turns call (s.note (some i) (s.gateway.writeMessage c pick m)) i (seen ++ [c]) rest
      (if Takes (s.gateway.box c) pick then got ++ [c] else got) where
  nodup := by simpa using h.nodup
  mine := by simpa using h.mine
  single := by simpa using h.single
  sub := by
    split_ifs
    · exact h.sub.append (List.Sublist.refl _)
    · exact h.sub.trans (List.sublist_append_left _ _)
  count d := by
    have hnew : c ∉ got := by
      intro hc
      have hdisj := (List.nodup_append.mp h.nodup).2.2
      exact hdisj c (h.sub.subset hc) c List.mem_cons_self rfl
    rw [received_note, entered_writeMessage, h.count d, if_pos rfl]
    by_cases hd : d = c
    · subst hd
      split_ifs <;> simp_all
    · split_ifs <;> simp_all

def Tracked (call : Call) (s : State ι) (i : ι) : Caller → Prop
  | .called => ∀ c, received s i c = 0
  | .writing conns => ∃ seen got, Turns call s i seen conns got
  | .returned _ => ∃ seen rest got, Turns call s i seen rest got

def Meant (calls : ι → Call) (c : AgentConnection) (e : Option ι × Json) : Prop :=
  match e.1 with
  | none => ∃ draw msg, newMessage draw msgServerWelcome (welcomePayload c) = some msg ∧
      e.2 = msg.marshal
  | some i => (calls i).IsFor c ∧ ∃ draw msg, (calls i).message draw = some msg ∧ e.2 = msg.marshal

structure Sent (calls : ι → Call) (s : State ι) : Prop where
  known : Known s.gateway
  meant : ∀ c, ∀ e ∈ s.accepted c, Meant calls c e
  tracked : ∀ i, Tracked (calls i) s i (s.caller i)

lemma Turns.congr (h : Turns call s i seen rest got)
    (hreceived : ∀ c, received s' i c = received s i c) : Turns call s' i seen rest got :=
  ⟨h.nodup, h.mine, h.single, h.sub, fun c => (hreceived c).trans (h.count c)⟩

lemma Tracked.congr {caller : Caller} (h : Tracked call s i caller)
    (hreceived : ∀ c, received s' i c = received s i c) : Tracked call s' i caller := by
  cases caller with
  | called => exact fun c => (hreceived c).trans (h c)
  | writing conns =>
    obtain ⟨seen, got, ht⟩ := h
    exact ⟨seen, got, ht.congr hreceived⟩
  | returned err =>
    obtain ⟨seen, rest, got, ht⟩ := h
    exact ⟨seen, rest, got, ht.congr hreceived⟩

lemma received_note_other {source : Option ι} (h : source ≠ some i) (c : AgentConnection) :
    received (s.note source g) i c = received s i c := by
  rw [received_note, if_neg h, Nat.add_zero]

omit [DecidableEq ι] in
lemma mem_note {source : Option ι} {e : Option ι × Json} (he : e ∈ (s.note source g).accepted c) :
    e ∈ s.accepted c ∨ e.1 = source ∧ e.2 ∈ entered s.gateway g c := by
  rcases List.mem_append.mp he with he | he
  · exact .inl he
  · obtain ⟨m, hm, rfl⟩ := List.mem_map.mp he
    exact .inr ⟨rfl, hm⟩

lemma turn_known (hk : Known g) (call : Call) (pick : Bool) (draw : Draw)
    (conns : List AgentConnection) : Known (turn call pick draw g conns).2 := by
  rcases turn_cases call pick draw g conns with heq | ⟨c, rest, msg, -, -, heq⟩
  · rwa [heq]
  · rw [heq]
    exact effect_writeMessage.known hk

lemma Turns.turn (h : Turns call s i seen (c :: rest) got) (pick : Bool) (draw : Draw) :
    ∃ got', Turns call (s.note (some i) (turn call pick draw s.gateway (c :: rest)).2) i
        (seen ++ [c]) rest got' ∧
      ((call.message draw).isSome → Takes (s.gateway.box c) pick → got' = got ++ [c]) := by
  cases hm : call.message draw with
  | none =>
    refine ⟨got, ?_, fun hsome => by simp at hsome⟩
    have heq : (Delivery.turn call pick draw s.gateway (c :: rest)).2 = s.gateway := by
      cases call <;> simp [Delivery.turn, hm]
    rw [heq]
    exact h.skip
  | some msg =>
    refine ⟨if Takes (s.gateway.box c) pick then got ++ [c] else got, ?_,
      fun _ htakes => if_pos htakes⟩
    have heq : (Delivery.turn call pick draw s.gateway (c :: rest)).2 =
        s.gateway.writeMessage c pick msg.marshal := by
      cases call <;> simp [Delivery.turn, hm]
    rw [heq]
    exact h.write pick msg.marshal

lemma turn_caller (call : Call) (pick : Bool) (draw : Draw) (g : Sessions.State)
    (c : AgentConnection) (rest : List AgentConnection) :
    (∃ err id t p, call = .sendToAgent id t p ∧
      (turn call pick draw g (c :: rest)).1 = .returned err) ∨
      (turn call pick draw g (c :: rest)).1 = .writing rest := by
  cases call with
  | sendToAgent id t p =>
    refine .inl ?_
    cases hm : Call.message draw (.sendToAgent id t p) with
    | none => exact ⟨some .message, id, t, p, rfl, by simp only [turn, hm]⟩
    | some msg =>
      refine ⟨((g.box c).writeMessage pick msg.marshal).1.map .context, id, t, p, rfl, ?_⟩
      simp only [turn, hm]
  | broadcastToOrg o t p =>
    refine .inr ?_
    cases hm : Call.message draw (.broadcastToOrg o t p) <;> simp [turn, hm]

lemma Tracked.turn (h : Tracked call s i (.writing conns)) (pick : Bool) (draw : Draw) :
    Tracked call (s.note (some i) (turn call pick draw s.gateway conns).2) i
      (turn call pick draw s.gateway conns).1 := by
  obtain ⟨seen, got, ht⟩ := h
  cases conns with
  | nil =>
    refine ⟨seen, [], got, ht.congr fun c => ?_⟩
    have heq : (Delivery.turn call pick draw s.gateway []).2 = s.gateway := rfl
    rw [received_note, heq, entered_self]
    simp
  | cons c rest =>
    obtain ⟨got', ht', -⟩ := ht.turn pick draw
    rcases turn_caller call pick draw s.gateway c rest with ⟨err, id, t, p, -, heq⟩ | heq
    · rw [heq]
      exact ⟨_, _, _, ht'⟩
    · rw [heq]
      exact ⟨_, _, ht'⟩

lemma Sent.gateway {a : Sessions.Action} (h : Sent calls s)
    (hstep : Sessions.step s.gateway a = some g) (hs : sends a = false) :
    Sent calls (s.note none g) where
  known := known_step h.known hstep
  meant c e he := by
    rcases mem_note he with he | ⟨hsource, hm⟩
    · exact h.meant c e he
    · have hwelcome : ∃ draw msg, newMessage draw msgServerWelcome (welcomePayload c) = some msg ∧
          e.2 = msg.marshal := by
        cases change hstep hs c with
        | same hq hw => simp [entered, hq] at hm
        | welcome pick draw msg ha hmsg hq =>
          rw [entered, hq, List.drop_left] at hm
          exact ⟨draw, msg, hmsg, List.mem_singleton.mp hm⟩
        | write ok m rest ha hrun hbefore hq hp =>
          rw [entered, hq, hbefore, List.drop_of_length_le (by simp)] at hm
          cases hm
      simpa only [Meant, hsource] using hwelcome
  tracked i := (h.tracked i).congr (received_note_other (by simp))

lemma Sent.write (h : Sent calls s) (hc : s.caller i = .writing conns) (pick : Bool) (draw : Draw) :
    Sent calls { s.note (some i) (turn (calls i) pick draw s.gateway conns).2 with
      caller := Function.update s.caller i (turn (calls i) pick draw s.gateway conns).1 } where
  known := turn_known h.known _ _ _ _
  meant c e he := by
    rcases mem_note he with he | ⟨hsource, hm⟩
    · exact h.meant c e he
    · rcases turn_cases (calls i) pick draw s.gateway conns with
        heq | ⟨conn, rest, msg, hconns, hmsg, heq⟩
      · rw [heq, entered_self] at hm
        cases hm
      · rw [heq, entered_writeMessage] at hm
        split_ifs at hm with hto
        · obtain ⟨rfl, -⟩ := hto
          have ht := h.tracked i
          rw [hc, hconns] at ht
          obtain ⟨seen, got, ht⟩ := ht
          have hfor := ht.mine c (List.mem_append_right _ List.mem_cons_self)
          have hfrom : (calls i).IsFor c ∧ ∃ draw msg, (calls i).message draw = some msg ∧
              e.2 = msg.marshal := ⟨hfor, draw, msg, hmsg, List.mem_singleton.mp hm⟩
          simpa only [Meant, hsource] using hfrom
        · cases hm
  tracked j := by
    by_cases hj : j = i
    · subst hj
      have ht := h.tracked j
      rw [hc] at ht
      simp only [Function.update_self]
      exact (ht.turn pick draw).congr fun _ => rfl
    · have hsource : some i ≠ some j := fun h => hj (Option.some.inj h).symm
      simp only [Function.update_of_ne hj]
      exact (h.tracked j).congr (received_note_other hsource)

lemma turns_targets {h : Hub} (hi : Indexed h) (order : Table.RangeOrder Bytes)
    (hnone : ∀ c, received s i c = 0) : Turns call s i [] (call.targets order h) [] where
  nodup := (targets_spec hi order call).1
  mine c hc := (((targets_spec hi order call).2 c).mp hc).2
  single id t p heq := by
    subst heq
    exact Option.length_toList_le
  sub := List.Sublist.refl _
  count c := by simpa using hnone c

lemma Sent.step {a : Action ι} (h : Sent calls s) (hstep : step calls s a = some s') :
    Sent calls s' := by
  cases a with
  | gateway a =>
    simp only [Delivery.step] at hstep
    split_ifs at hstep with hs
    obtain ⟨g, hg, rfl⟩ := Option.map_eq_some_iff.mp hstep
    have hn := h.gateway hg (by simpa using hs)
    exact ⟨hn.known, hn.meant, fun i => (hn.tracked i).congr fun _ => rfl⟩
  | look i order =>
    simp only [Delivery.step] at hstep
    split at hstep
    next hc =>
      obtain rfl := Option.some.inj hstep
      refine ⟨h.known, h.meant, fun j => ?_⟩
      by_cases hj : j = i
      · subst hj
        have ht := h.tracked j
        rw [hc] at ht
        simp only [Function.update_self]
        exact ⟨[], [], (turns_targets h.known.indexed order ht).congr fun _ => rfl⟩
      · simp only [Function.update_of_ne hj]
        exact (h.tracked j).congr fun _ => rfl
    next => cases hstep
  | write i pick draw =>
    simp only [Delivery.step] at hstep
    split at hstep
    next conns hc =>
      obtain rfl := Option.some.inj hstep
      exact h.write hc pick draw
    next => cases hstep

lemma sent_start (calls : ι → Call) : Sent calls start where
  known := known_start
  meant c e he := by cases he
  tracked i c := rfl

lemma Tracked.once {caller : Caller} (h : Tracked call s i caller) (c : AgentConnection) :
    received s i c ≤ 1 := by
  have hturns : ∀ {seen rest got}, Turns call s i seen rest got → received s i c ≤ 1 := by
    intro seen rest got ht
    rw [ht.count c]
    split_ifs
    · exact Nat.le_refl _
    · exact Nat.zero_le _
  cases caller with
  | called => exact (h c).trans_le (Nat.zero_le _)
  | writing conns =>
    obtain ⟨seen, got, ht⟩ := h
    exact hturns ht
  | returned err =>
    obtain ⟨seen, rest, got, ht⟩ := h
    exact hturns ht

lemma Tracked.single {caller : Caller} {id t : Bytes} {p : Payload} {c' : AgentConnection}
    (h : Tracked (.sendToAgent id t p) s i caller) (hc : received s i c ≠ 0)
    (hc' : received s i c' ≠ 0) : c = c' := by
  have hturns : ∀ {seen rest got}, Turns (.sendToAgent id t p) s i seen rest got → c = c' := by
    intro seen rest got ht
    have hmem : ∀ d, received s i d ≠ 0 → d ∈ seen ++ rest := by
      intro d hd
      rw [ht.count d] at hd
      have hgot : d ∈ got := by
        by_contra hnot
        exact hd (if_neg hnot)
      exact List.mem_append_left _ (ht.sub.subset hgot)
    have hle := ht.single id t p rfl
    cases hl : seen ++ rest with
    | nil =>
      have hin := hmem c hc
      rw [hl] at hin
      cases hin
    | cons d ds =>
      obtain rfl : ds = [] := by
        rw [hl] at hle
        exact List.length_eq_zero_iff.mp (Nat.le_zero.mp (Nat.le_of_succ_le_succ hle))
      have hin := hmem c hc
      have hin' := hmem c' hc'
      rw [hl, List.mem_singleton] at hin hin'
      rw [hin, hin']
  cases caller with
  | called => exact absurd (h c) hc
  | writing conns =>
    obtain ⟨seen, got, ht⟩ := h
    exact hturns ht
  | returned err =>
    obtain ⟨seen, rest, got, ht⟩ := h
    exact hturns ht

lemma sent_run {as : List (Action ι)} (hr : run (Delivery.step calls) start as = some s) :
    Sent calls s :=
  run_invariant (sent_start calls) hr fun _ _ _ h hstep => h.step hstep

/-- Nothing is written to a connection's websocket but its welcome and messages of calls for its
agent or its organization, each call reaches a connection once at most, and `SendToAgent` reaches
one connection at most. -/
theorem reaches_addressees (calls : ι → Call) (as : List (Action ι))
    (hr : run (step calls) start as = some s) :
    (∀ c, ∀ m ∈ s.wire c,
      (∃ draw msg, newMessage draw msgServerWelcome (welcomePayload c) = some msg ∧
        m = msg.marshal) ∨
      ∃ i, (calls i).IsFor c ∧ ∃ draw msg, (calls i).message draw = some msg ∧ m = msg.marshal) ∧
    (∀ i c, received s i c ≤ 1) ∧
    ∀ i id t p, calls i = .sendToAgent id t p →
      ∀ c c', received s i c ≠ 0 → received s i c' ≠ 0 → c = c' := by
  have hsent := sent_run hr
  refine ⟨fun c m hm => ?_, fun i c => (hsent.tracked i).once c,
    fun i id t p hcall c c' hc hc' => ?_⟩
  · obtain ⟨lost, ho⟩ := ordered_run hr c
    have hmem : m ∈ (s.accepted c).map Prod.snd := by
      rw [ho.accepted, List.append_assoc]
      exact List.mem_append_left _ hm
    obtain ⟨⟨source, m'⟩, he, rfl⟩ := List.mem_map.mp hmem
    have hmeant := hsent.meant c _ he
    cases source with
    | none => exact .inl hmeant
    | some i => exact .inr ⟨i, hmeant⟩
  · have ht := hsent.tracked i
    rw [hcall] at ht
    exact ht.single hc hc'

theorem reaches_addressees_stop :
    ∃ s, run (step stopCalls) start (connect ++ stop) = some s ∧
      (∀ i c, received s i c ≤ 1) ∧ received s true firstConnection ≠ 0 := by
  refine ⟨_, rfl, ?_, by decide⟩
  exact (reaches_addressees stopCalls (connect ++ stop) rfl).2.1

/-! A call whose messages all find room. -/

def Room (calls : ι → Call) (i : ι) (s : State ι) : Action ι → Prop
  | .write j pick draw => j = i → match s.caller i with
    | .writing (c :: _) => ((calls i).message draw).isSome ∧ Takes (s.gateway.box c) pick
    | _ => True
  | _ => True

def Reached (call : Call) (s : State ι) (i : ι) (found : List AgentConnection) : Prop :=
  match s.caller i with
  | .called => False
  | .writing rest => ∃ seen, seen ++ rest = found ∧ Turns call s i seen rest seen
  | .returned _ => Turns call s i found [] found

variable {found : List AgentConnection}

lemma Reached.congr (h : Reached call s i found) (hcaller : s'.caller i = s.caller i)
    (hreceived : ∀ c, received s' i c = received s i c) : Reached call s' i found := by
  unfold Reached at h ⊢
  rw [hcaller]
  split at h
  · exact h
  · obtain ⟨seen, hseen, ht⟩ := h
    exact ⟨seen, hseen, ht.congr hreceived⟩
  · exact h.congr hreceived

lemma Reached.write (h : Reached (calls i) s i found) {pick : Bool} {draw : Draw}
    (hroom : Room calls i s (.write i pick draw))
    (hstep : step calls s (.write i pick draw) = some s') : Reached (calls i) s' i found := by
  simp only [Delivery.step] at hstep
  split at hstep
  next conns hc =>
    obtain rfl := Option.some.inj hstep
    have hroom' := hroom rfl
    unfold Reached at h ⊢
    rw [hc] at h hroom'
    obtain ⟨seen, hseen, ht⟩ := h
    simp only [Function.update_self]
    cases conns with
    | nil =>
      rw [List.append_nil] at hseen
      subst hseen
      refine ht.congr fun c => ?_
      have hsame : received (s.note (some i) s.gateway) i c = received s i c := by
        rw [received_note, entered_self]
        simp
      exact hsame
    | cons c rest =>
      obtain ⟨hmsg, htakes⟩ := hroom'
      obtain ⟨got, ht', hgot⟩ := ht.turn pick draw
      obtain rfl := hgot hmsg htakes
      have hfound : seen ++ [c] ++ rest = found := by simpa using hseen
      rcases turn_caller (calls i) pick draw s.gateway c rest with ⟨err, id, t, p, hcall, heq⟩ | heq
      · have hle := ht.single id t p hcall
        obtain rfl : rest = [] := by
          rw [List.length_append, List.length_cons] at hle
          exact List.length_eq_zero_iff.mp (by omega)
        rw [List.append_nil] at hfound
        rw [heq, ← hfound]
        exact ht'.congr fun _ => rfl
      · rw [heq]
        exact ⟨seen ++ [c], hfound, ht'.congr fun _ => rfl⟩
  next => cases hstep

lemma Reached.step {a : Action ι} (h : Reached (calls i) s i found) (hroom : Room calls i s a)
    (hstep : step calls s a = some s') : Reached (calls i) s' i found := by
  cases a with
  | gateway a =>
    simp only [Delivery.step] at hstep
    split_ifs at hstep
    obtain ⟨g, -, rfl⟩ := Option.map_eq_some_iff.mp hstep
    exact h.congr rfl (received_note_other (by simp))
  | look j order =>
    simp only [Delivery.step] at hstep
    split at hstep
    next hc =>
      obtain rfl := Option.some.inj hstep
      have hj : i ≠ j := by
        rintro rfl
        unfold Reached at h
        rw [hc] at h
        exact h
      exact h.congr (Function.update_of_ne hj _ _) fun _ => rfl
    next => cases hstep
  | write j pick draw =>
    by_cases hj : j = i
    · subst hj
      exact h.write hroom hstep
    · simp only [Delivery.step] at hstep
      split at hstep
      next conns hc =>
        obtain rfl := Option.some.inj hstep
        have hsource : some j ≠ some i := fun h => hj (Option.some.inj h)
        exact h.congr (Function.update_of_ne (Ne.symm hj) _ _) (received_note_other hsource)
      next => cases hstep

/-- A call that returned, and whose messages all found room, has reached exactly the connections
that were current, when it looked them up, for its agent or its organization. -/
theorem reaches_current (calls : ι → Call) (as bs : List (Action ι)) (i : ι)
    (order : Table.RangeOrder Bytes) {err : Option SendError}
    (hr : run (step calls) start as = some s)
    (hrun : run (step calls) s (.look i order :: bs) = some s')
    (hroom : Guarded (step calls) (Room calls i) s (.look i order :: bs))
    (hret : s'.caller i = .returned err) (c : AgentConnection) :
    received s' i c = if Current s.gateway.loop.hub c ∧ (calls i).IsFor c then 1 else 0 := by
  have hsent := sent_run hr
  obtain ⟨t, ht, hrun'⟩ := Option.bind_eq_some_iff.mp hrun
  obtain ⟨-, hroom'⟩ := hroom t ht
  have hspec := targets_spec hsent.known.indexed order (calls i)
  have hinit : Reached (calls i) t i ((calls i).targets order s.gateway.loop.hub) := by
    simp only [Delivery.step] at ht
    split at ht
    next hc =>
      obtain rfl := Option.some.inj ht
      have htracked := hsent.tracked i
      rw [hc] at htracked
      unfold Reached
      simp only [Function.update_self]
      exact ⟨[], rfl, (turns_targets hsent.known.indexed order htracked).congr fun _ => rfl⟩
    next => cases ht
  have hlast := guarded_invariant
    (P := fun u => Reached (calls i) u i ((calls i).targets order s.gateway.loop.hub))
    hinit hroom' hrun' fun u a v h hroom hstep => h.step hroom hstep
  unfold Reached at hlast
  rw [hret] at hlast
  rw [hlast.count c]
  simp only [hspec.2]

theorem reaches_current_stop :
    ∃ s s', run (step stopCalls) start connect = some s ∧ run (step stopCalls) s stop = some s' ∧
      received s' true firstConnection =
        if Current s.gateway.loop.hub firstConnection ∧ (stopCalls true).IsFor firstConnection
        then 1 else 0 := by
  refine ⟨_, _, rfl, rfl, ?_⟩
  refine reaches_current stopCalls connect [.write true true ⟨some [], []⟩] true .byCode rfl rfl
    (fun t ht => ⟨trivial, fun u hu => ⟨fun _ => ?_, trivial⟩⟩) rfl firstConnection
  obtain rfl := Option.some.inj ht
  exact ⟨rfl, by decide⟩

end Reach

end OmniTun.Gateway.Delivery
