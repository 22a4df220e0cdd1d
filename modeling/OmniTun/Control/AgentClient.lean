import OmniTun.Foundation.Transition

/-! The agent's control connection: the loops that use and renew it, and its end. -/

namespace OmniTun.Control.AgentClient

open OmniTun.Foundation Transition

/-- A connection is named by the number of those installed before it. -/
abbrev ConnID := ℕ

inductive Heartbeat
  | waiting
  | ticked
  | pinging (conn : ConnID)
  | failed (conn : ConnID)
  | signalling (origin : Option ConnID)
  | stopped
  deriving DecidableEq, Repr

inductive Message
  | top
  | checked
  | reading (conn : ConnID)
  | handling
  | failed (conn : ConnID)
  | signalling (conn : ConnID)
  | sleeping
  | returned
  deriving DecidableEq, Repr

inductive Reconnect
  | waiting
  | taken (origin : Option ConnID)
  | redialing
  | dialing
  | dialed
  | backingOff
  | stopped
  deriving DecidableEq, Repr

inductive Disconnect
  | idle
  | locked
  | waiting
  deriving DecidableEq, Repr

/-- The client, and where its goroutines stand. A signal in the channel is kept with the connection
whose failure it reports; `readFailed` and `pingFailed` are the connections on which a read or a ping
has failed, and `closes` what `reconnectLoop` has closed and on which signal. -/
structure Client where
  wsConn : Option ConnID
  connected : Bool
  reconnectCh : Option (Option ConnID)
  mutex : Bool
  quit : Bool
  done : Bool
  failCount : ℕ
  heartbeat : Heartbeat
  message : Message
  reconnect : Reconnect
  disconnect : Disconnect
  opened : ℕ
  closed : List ConnID
  readFailed : List ConnID
  pingFailed : List ConnID
  closes : List (ConnID × Option ConnID)

/-- What a loop does next; `ok` and `fail` are what a ping, a read or a dial comes to. -/
inductive Event
  | go
  | quit
  | ok
  | fail
  deriving DecidableEq, Repr

def maxFailures : ℕ := 3

namespace Client

variable (s : Client)

def signal (origin : Option ConnID) : Client :=
  { s with reconnectCh := some (s.reconnectCh.getD origin) }

def closeConn : Client := { s with closed := s.wsConn.toList ++ s.closed, wsConn := none }

def heartbeatLoop (e : Event) : Option Client :=
  match s.heartbeat, e with
  | .waiting, .quit => if s.quit then some { s with heartbeat := .stopped } else none
  | .waiting, .go => some { s with heartbeat := .ticked }
  | .ticked, .go =>
    if s.mutex then none
    else
      match s.wsConn with
      | some conn => some { s with heartbeat := .pinging conn }
      | none => some
          { s with
            failCount := s.failCount + 1
            heartbeat := if maxFailures ≤ s.failCount + 1 then .signalling none else .waiting }
  | .pinging conn, .ok =>
    if s.closed.contains conn then none else some { s with failCount := 0, heartbeat := .waiting }
  | .pinging conn, .fail => some
      { s with
        failCount := s.failCount + 1
        pingFailed := conn :: s.pingFailed
        heartbeat := if maxFailures ≤ s.failCount + 1 then .failed conn else .waiting }
  | .failed conn, .go =>
    if s.mutex then none
    else some { s with connected := false, heartbeat := .signalling (some conn) }
  | .signalling origin, .go => some { s.signal origin with heartbeat := .waiting }
  | _, _ => none

def messageLoop (e : Event) : Option Client :=
  match s.message, e with
  | .top, .go =>
    if s.quit then some { s with message := .returned, done := true }
    else some { s with message := .checked }
  | .checked, .go =>
    if s.mutex then none
    else
      match s.wsConn with
      | none => some { s with message := .sleeping }
      | some conn => some { s with message := .reading conn }
  | .reading conn, .ok =>
    -- the error of a connection stays
    if s.readFailed.contains conn then none else some { s with message := .handling }
  | .reading conn, .fail => some
      { s with readFailed := conn :: s.readFailed, message := .failed conn }
  | .handling, .go => some { s with message := .top }
  | .failed conn, .go =>
    if s.mutex then none else some { s with connected := false, message := .signalling conn }
  | .signalling conn, .go => some { s.signal (some conn) with message := .sleeping }
  | .sleeping, .go => some { s with message := .top }
  | _, _ => none

def reconnectLoop (e : Event) : Option Client :=
  match s.reconnect, e with
  | .waiting, .quit => if s.quit then some { s with reconnect := .stopped } else none
  | .waiting, .go =>
    match s.reconnectCh with
    | none => none
    | some origin => some { s with reconnectCh := none, reconnect := .taken origin }
  | .taken origin, .go =>
    if s.mutex then none
    else some
      { s.closeConn with
        connected := false
        reconnect := .redialing
        closes := s.closes ++ s.wsConn.toList.map fun conn => (conn, origin) }
  | .redialing, .go =>
    if s.quit then some { s with reconnect := .stopped } else some { s with reconnect := .dialing }
  | .dialing, .ok => some { s with reconnect := .dialed }
  | .dialing, .fail => some { s with reconnect := .backingOff }
  | .dialed, .go =>
    if s.mutex then none
    else some
      { s.closeConn with
        wsConn := some s.opened
        opened := s.opened + 1
        connected := true
        reconnect := .waiting
        closes := s.closes ++ s.wsConn.toList.map fun conn => (conn, none) }
  | .backingOff, .quit => if s.quit then some { s with reconnect := .stopped } else none
  | .backingOff, .go => some { s with reconnect := .redialing }
  | _, _ => none

def disconnectStep : Option Client :=
  match s.disconnect with
  | .idle =>
    if s.mutex then none
    else if s.connected then some { s with mutex := true, disconnect := .locked }
    else some s
  -- closing it twice would end the program
  | .locked => if s.quit then none else some { s with quit := true, disconnect := .waiting }
  | .waiting =>
    if s.done then some
      { s.closeConn with connected := false, mutex := false, disconnect := .idle }
    else none

end Client

inductive Op
  | heartbeat (e : Event)
  | message (e : Event)
  | reconnect (e : Event)
  deriving DecidableEq, Repr

def step (s : Client) : Op → Option Client
  | .heartbeat e => s.heartbeatLoop e
  | .message e => s.messageLoop e
  | .reconnect e => s.reconnectLoop e

def connect : Client where
  wsConn := some 0
  connected := true
  reconnectCh := none
  mutex := false
  quit := false
  done := false
  failCount := 0
  heartbeat := .waiting
  message := .top
  reconnect := .waiting
  disconnect := .idle
  opened := 1
  closed := []
  readFailed := []
  pingFailed := []
  closes := []

def Reconnect.away : Reconnect → Bool
  | .redialing | .dialing | .dialed | .backingOff => true
  | _ => false

def Message.conn : Message → Option ConnID
  | .reading conn | .failed conn | .signalling conn => some conn
  | _ => none

def Heartbeat.conn : Heartbeat → Option ConnID
  | .pinging conn | .failed conn => some conn
  | .signalling origin => origin
  | _ => none

def Message.midStep : Message → Bool
  | .checked | .handling | .failed _ | .signalling _ => true
  | _ => false

def Heartbeat.midStep : Heartbeat → Bool
  | .waiting | .stopped => false
  | _ => true

def Reconnect.midStep : Reconnect → Bool
  | .waiting | .stopped => false
  | _ => true

namespace Client

variable (s : Client)

def HasFailed (conn : ConnID) : Prop := conn ∈ s.readFailed ∨ conn ∈ s.pingFailed

def IsOpen (conn : ConnID) : Prop := conn ∉ s.closed ∧ conn ∉ s.readFailed

def MidStep : Prop := s.heartbeat.midStep ∨ s.message.midStep ∨ s.reconnect.midStep

end Client

structure ReconnectKept (s : Client) : Prop where
  closes : ∀ conn origin, (conn, origin) ∈ s.closes → origin = some conn ∧ s.HasFailed conn
  flag : ¬ s.MidStep → s.reconnectCh = none →
    (s.connected = true ↔ ∃ conn, s.wsConn = some conn ∧ s.IsOpen conn)

/-- A failure is signalled while `reconnectLoop` waits and its connection is the one installed, or
while another signal is waiting. -/
def Fresh (s : Client) (origin : Option ConnID) : Prop :=
  s.reconnectCh ≠ none ∨
    s.reconnect = .waiting ∧ ∃ conn, origin = some conn ∧ s.wsConn = some conn

def FreshSignal (s : Client) (op : Op) : Prop :=
  match op, s.heartbeat, s.message with
  | .heartbeat .go, .signalling origin, _ => Fresh s origin
  | .message .go, _, .signalling conn => Fresh s (some conn)
  | _, _, _ => True

section Cases

open Client

variable {s t : Client} {e : Event}

lemma heartbeatLoop_cases (h : s.heartbeatLoop e = some t) :
    (∃ hb n, t = { s with heartbeat := hb, failCount := n } ∧
      (∀ origin, s.heartbeat ≠ .signalling origin) ∧
      (hb.conn = none ∨ hb.conn = s.wsConn ∧ ∃ conn, hb = .pinging conn)) ∨
    (∃ conn hb n, s.heartbeat = .pinging conn ∧ (hb = .failed conn ∨ hb = .waiting) ∧
      t = { s with heartbeat := hb, failCount := n, pingFailed := conn :: s.pingFailed }) ∨
    (∃ conn, s.heartbeat = .failed conn ∧
      t = { s with connected := false, heartbeat := .signalling (some conn) }) ∨
    ∃ origin, e = .go ∧ s.heartbeat = .signalling origin ∧
      t = { s.signal origin with heartbeat := .waiting } := by
  cases hb : s.heartbeat <;> cases e <;> simp only [heartbeatLoop, hb, reduceCtorEq] at h
  case waiting.go =>
    obtain rfl := Option.some.inj h
    exact .inl ⟨.ticked, s.failCount, rfl, by simp, .inl rfl⟩
  case waiting.quit =>
    split_ifs at h
    obtain rfl := Option.some.inj h
    exact .inl ⟨.stopped, s.failCount, rfl, by simp, .inl rfl⟩
  case ticked.go =>
    obtain ⟨-, h⟩ := Option.ite_none_left_eq_some.mp h
    cases hc : s.wsConn with
    | none =>
      rw [hc] at h
      refine .inl ⟨_, _, (Option.some.inj h).symm, by simp, .inl ?_⟩
      split_ifs <;> rfl
    | some conn =>
      rw [hc] at h
      obtain h := Option.some.inj h
      exact .inl ⟨.pinging conn, s.failCount, h.symm, by simp, .inr ⟨rfl, conn, rfl⟩⟩
  case pinging.ok conn =>
    split_ifs at h
    exact .inl ⟨.waiting, 0, (Option.some.inj h).symm, by simp, .inl rfl⟩
  case pinging.fail conn =>
    refine .inr (.inl ⟨conn, _, _, rfl, ?_, (Option.some.inj h).symm⟩)
    split_ifs
    · exact .inl rfl
    · exact .inr rfl
  case failed.go conn =>
    split_ifs at h
    exact .inr (.inr (.inl ⟨conn, rfl, (Option.some.inj h).symm⟩))
  case signalling.go origin =>
    exact .inr (.inr (.inr ⟨origin, rfl, rfl, (Option.some.inj h).symm⟩))

lemma messageLoop_cases (h : s.messageLoop e = some t) :
    (∃ m d, t = { s with message := m, done := d } ∧ e ≠ .fail ∧
      (∀ conn, s.message ≠ .signalling conn) ∧ (∀ conn, s.message ≠ .failed conn) ∧
      (m = .checked → s.quit = false) ∧ (d = s.done ∨ m = .returned) ∧
      (m.conn = none ∨ m.conn = s.wsConn ∧ s.mutex = false ∧ ∃ conn, m = .reading conn)) ∨
    (∃ conn, e = .fail ∧ s.message = .reading conn ∧
      t = { s with readFailed := conn :: s.readFailed, message := .failed conn }) ∨
    (∃ conn, e = .go ∧ s.message = .failed conn ∧
      t = { s with connected := false, message := .signalling conn }) ∨
    ∃ conn, e = .go ∧ s.message = .signalling conn ∧
      t = { s.signal (some conn) with message := .sleeping } := by
  cases hm : s.message <;> cases e <;> simp only [messageLoop, hm, reduceCtorEq] at h
  case top.go =>
    split_ifs at h with hq
    · exact .inl ⟨.returned, true, (Option.some.inj h).symm, by simp, by simp, by simp, by simp,
        .inr rfl, .inl rfl⟩
    · exact .inl ⟨.checked, s.done, (Option.some.inj h).symm, by simp, by simp, by simp,
        fun _ => by simpa using hq, .inl rfl, .inl rfl⟩
  case checked.go =>
    split_ifs at h with hmu
    have hfree : s.mutex = false := by simpa using hmu
    cases hc : s.wsConn with
    | none =>
      simp only [hc, Option.some.injEq] at h
      exact .inl ⟨.sleeping, s.done, h.symm, by simp, by simp, by simp, by simp, .inl rfl,
        .inl rfl⟩
    | some conn =>
      simp only [hc, Option.some.injEq] at h
      exact .inl ⟨.reading conn, s.done, h.symm, by simp, by simp, by simp, by simp,
        .inl rfl, .inr ⟨rfl, hfree, conn, rfl⟩⟩
  case reading.ok conn =>
    split_ifs at h
    exact .inl ⟨.handling, s.done, (Option.some.inj h).symm, by simp, by simp, by simp, by simp,
      .inl rfl, .inl rfl⟩
  case reading.fail conn => exact .inr (.inl ⟨conn, rfl, rfl, (Option.some.inj h).symm⟩)
  case handling.go =>
    exact .inl ⟨.top, s.done, (Option.some.inj h).symm, by simp, by simp, by simp, by simp,
      .inl rfl, .inl rfl⟩
  case failed.go conn =>
    split_ifs at h
    exact .inr (.inr (.inl ⟨conn, rfl, rfl, (Option.some.inj h).symm⟩))
  case signalling.go conn => exact .inr (.inr (.inr ⟨conn, rfl, rfl, (Option.some.inj h).symm⟩))
  case sleeping.go =>
    exact .inl ⟨.top, s.done, (Option.some.inj h).symm, by simp, by simp, by simp, by simp,
      .inl rfl, .inl rfl⟩

lemma reconnectLoop_cases (h : s.reconnectLoop e = some t) :
    (s.quit = true ∧ t = { s with reconnect := .stopped }) ∨
    (∃ r, t = { s with reconnect := r } ∧ s.reconnect.away = true ∧ r.away = true) ∨
    (∃ origin, s.reconnect = .waiting ∧ s.reconnectCh = some origin ∧
      t = { s with reconnectCh := none, reconnect := .taken origin }) ∨
    (∃ origin, s.mutex = false ∧ s.reconnect = .taken origin ∧
      t = { s.closeConn with
        connected := false
        reconnect := .redialing
        closes := s.closes ++ s.wsConn.toList.map fun conn => (conn, origin) }) ∨
    (s.mutex = false ∧ s.reconnect = .dialed ∧
      t = { s.closeConn with
        wsConn := some s.opened
        opened := s.opened + 1
        connected := true
        reconnect := .waiting
        closes := s.closes ++ s.wsConn.toList.map fun conn => (conn, none) }) := by
  have hfree : ¬ s.mutex = true → s.mutex = false := by simp
  cases hr : s.reconnect <;> cases e <;> simp only [reconnectLoop, hr, reduceCtorEq] at h
  case waiting.go =>
    cases hc : s.reconnectCh with
    | none =>
      rw [hc] at h
      cases h
    | some origin =>
      rw [hc] at h
      exact .inr (.inr (.inl ⟨origin, rfl, rfl, (Option.some.inj h).symm⟩))
  case waiting.quit =>
    split_ifs at h with hq
    exact .inl ⟨hq, (Option.some.inj h).symm⟩
  case taken.go origin =>
    split_ifs at h with hm
    exact .inr (.inr (.inr (.inl ⟨origin, hfree hm, rfl, (Option.some.inj h).symm⟩)))
  case redialing.go =>
    split_ifs at h with hq
    · exact .inl ⟨hq, (Option.some.inj h).symm⟩
    · exact .inr (.inl ⟨.dialing, (Option.some.inj h).symm, rfl, rfl⟩)
  case dialing.ok => exact .inr (.inl ⟨.dialed, (Option.some.inj h).symm, rfl, rfl⟩)
  case dialing.fail => exact .inr (.inl ⟨.backingOff, (Option.some.inj h).symm, rfl, rfl⟩)
  case dialed.go =>
    split_ifs at h with hm
    exact .inr (.inr (.inr (.inr ⟨hfree hm, rfl, (Option.some.inj h).symm⟩)))
  case backingOff.quit =>
    split_ifs at h with hq
    exact .inl ⟨hq, (Option.some.inj h).symm⟩
  case backingOff.go => exact .inr (.inl ⟨.redialing, (Option.some.inj h).symm, rfl, rfl⟩)

end Cases

namespace Client

variable (s : Client)

def Signalled : Prop :=
  s.reconnectCh ≠ none ∨ (∃ origin, s.reconnect = .taken origin) ∨
    (∃ conn, s.message = .signalling conn) ∨ ∃ origin, s.heartbeat = .signalling origin

end Client

structure Inv (s : Client) : Prop where
  quit : s.quit = false
  mutex : s.mutex = false
  running : s.reconnect ≠ .stopped
  installed : s.reconnect.away = false → ∃ conn, s.wsConn = some conn ∧ conn < s.opened ∧
    conn ∉ s.closed
  away : s.reconnect.away = true → s.wsConn = none
  flag : s.connected = false → s.reconnect.away = true ∨ s.Signalled
  broken : ∀ conn, s.wsConn = some conn → conn ∈ s.readFailed →
    s.Signalled ∨ ∃ conn', s.message = .failed conn'
  closed : ∀ conn ∈ s.closed, conn < s.opened
  readFailed : ∀ conn ∈ s.readFailed, conn < s.opened
  message : ∀ conn, s.message.conn = some conn → conn < s.opened
  heartbeat : ∀ conn, s.heartbeat.conn = some conn → conn < s.opened

section Invariant

open Client

variable {s t : Client} {e : Event} {op : Op}

lemma Inv.wsConn_lt (h : Inv s) {conn : ConnID} (hc : s.wsConn = some conn) : conn < s.opened := by
  cases haway : s.reconnect.away with
  | true =>
    rw [h.away haway] at hc
    cases hc
  | false =>
    obtain ⟨conn', hc', hlt, -⟩ := h.installed haway
    rw [hc] at hc'
    exact Option.some.inj hc' ▸ hlt

lemma Client.Signalled.mono (h : s.Signalled) (hch : t.reconnectCh = s.reconnectCh)
    (hr : t.reconnect = s.reconnect)
    (hm : ∀ conn, s.message = .signalling conn → t.message = .signalling conn)
    (hb : ∀ origin, s.heartbeat = .signalling origin → t.heartbeat = .signalling origin) :
    t.Signalled := by
  rcases h with h | ⟨origin, h⟩ | ⟨conn, h⟩ | ⟨origin, h⟩
  · exact .inl (hch ▸ h)
  · exact .inr (.inl ⟨origin, hr ▸ h⟩)
  · exact .inr (.inr (.inl ⟨conn, hm conn h⟩))
  · exact .inr (.inr (.inr ⟨origin, hb origin h⟩))

lemma signalled_signal (origin : Option ConnID) : (s.signal origin).reconnectCh ≠ none := by
  simp [signal]

lemma inv_heartbeat (h : Inv s) (hs : s.heartbeatLoop e = some t) : Inv t := by
  rcases heartbeatLoop_cases hs with ⟨hb, n, rfl, hidle, hconn⟩ | ⟨conn, hb, n, hp, hnext, rfl⟩ |
    ⟨conn, hp, rfl⟩ | ⟨origin, -, hp, rfl⟩
  · have hsignalled : s.Signalled → Signalled { s with heartbeat := hb, failCount := n } :=
      fun h => h.mono rfl rfl (fun _ => id) fun origin ho => absurd ho (hidle origin)
    refine { h with flag := ?_, broken := ?_, heartbeat := ?_ }
    · exact fun hc => (h.flag hc).imp id hsignalled
    · exact fun c hc hf => (h.broken c hc hf).imp hsignalled id
    · intro c hc
      rcases hconn with hnone | ⟨hws, -⟩
      · simp [hnone] at hc
      · exact h.wsConn_lt (hws ▸ hc)
  · have hsignalled : s.Signalled → Signalled
        { s with heartbeat := hb, failCount := n, pingFailed := conn :: s.pingFailed } :=
      fun h => h.mono rfl rfl (fun _ => id) fun origin ho => by simp [hp] at ho
    refine { h with flag := ?_, broken := ?_, heartbeat := ?_ }
    · exact fun hc => (h.flag hc).imp id hsignalled
    · exact fun c hc hf => (h.broken c hc hf).imp hsignalled id
    · intro c hc
      rcases hnext with rfl | rfl
      · exact h.heartbeat c (by rw [hp]; exact hc)
      · cases hc
  · have hsignalled : Signalled { s with connected := false, heartbeat := .signalling (some conn) } :=
      .inr (.inr (.inr ⟨some conn, rfl⟩))
    refine { h with flag := fun _ => .inr hsignalled, broken := fun _ _ _ => .inl hsignalled,
                    heartbeat := ?_ }
    intro c hc
    exact h.heartbeat c (by rw [hp]; exact hc)
  · have hsignalled : Signalled { s.signal origin with heartbeat := .waiting } :=
      .inl (signalled_signal origin)
    refine { h with flag := fun _ => .inr hsignalled, broken := fun _ _ _ => .inl hsignalled,
                    heartbeat := ?_ }
    intro c hc
    cases hc

lemma inv_message (h : Inv s) (hs : s.messageLoop e = some t) : Inv t := by
  rcases messageLoop_cases hs with ⟨m, d, rfl, -, hidle, hgood, -, -, hconn⟩ |
    ⟨conn, -, hp, rfl⟩ | ⟨conn, -, hp, rfl⟩ | ⟨conn, -, hp, rfl⟩
  · have hsignalled : s.Signalled → Signalled { s with message := m, done := d } :=
      fun h => h.mono rfl rfl (fun conn hm => absurd hm (hidle conn)) fun _ => id
    refine { h with flag := ?_, broken := ?_, message := ?_ }
    · exact fun hc => (h.flag hc).imp id hsignalled
    · intro c hc hf
      rcases h.broken c hc hf with hb | ⟨conn, hb⟩
      · exact .inl (hsignalled hb)
      · exact absurd hb (hgood conn)
    · intro c hc
      rcases hconn with hnone | ⟨hws, -⟩
      · simp [hnone] at hc
      · exact h.wsConn_lt (hws ▸ hc)
  · have hlt : conn < s.opened := h.message conn (by rw [hp]; rfl)
    have hsignalled : s.Signalled → Signalled
        { s with readFailed := conn :: s.readFailed, message := .failed conn } :=
      fun h => h.mono rfl rfl (fun c hm => by simp [hp] at hm) fun _ => id
    refine { h with flag := ?_, broken := fun _ _ _ => .inr ⟨conn, rfl⟩, readFailed := ?_, message := ?_ }
    · exact fun hc => (h.flag hc).imp id hsignalled
    · intro c hc
      rcases List.mem_cons.mp hc with rfl | hc
      · exact hlt
      · exact h.readFailed c hc
    · intro c hc
      exact Option.some.inj hc ▸ hlt
  · have hsignalled : Signalled { s with connected := false, message := .signalling conn } :=
      .inr (.inr (.inl ⟨conn, rfl⟩))
    refine { h with flag := fun _ => .inr hsignalled, broken := fun _ _ _ => .inl hsignalled,
                    message := ?_ }
    intro c hc
    exact h.message c (by rw [hp]; exact hc)
  · have hsignalled : Signalled { s.signal (some conn) with message := .sleeping } :=
      .inl (signalled_signal _)
    refine { h with flag := fun _ => .inr hsignalled, broken := fun _ _ _ => .inl hsignalled,
                    message := ?_ }
    intro c hc
    cases hc

lemma inv_reconnect (h : Inv s) (hs : s.reconnectLoop e = some t) : Inv t := by
  rcases reconnectLoop_cases hs with ⟨hq, -⟩ | ⟨r, rfl, haway, hr⟩ | ⟨origin, hp, hch, rfl⟩ |
    ⟨origin, -, hp, rfl⟩ | ⟨-, hp, rfl⟩
  · exact absurd hq (by simp [h.quit])
  · refine { h with running := ?_, installed := ?_, away := fun _ => h.away haway,
                    flag := fun _ => .inl hr, broken := ?_ }
    · rintro rfl
      cases hr
    · intro hr'
      rw [hr] at hr'
      cases hr'
    · intro c hc
      simp [h.away haway] at hc
  · have hsignalled : Signalled { s with reconnectCh := none, reconnect := .taken origin } :=
      .inr (.inl ⟨origin, rfl⟩)
    refine { h with running := by simp, installed := fun _ => h.installed (by rw [hp]; rfl),
                    away := by simp [Reconnect.away], flag := fun _ => .inr hsignalled,
                    broken := fun _ _ _ => .inl hsignalled }
  · refine { h with running := by simp, installed := by simp [Reconnect.away], away := fun _ => rfl,
                    flag := fun _ => .inl rfl, broken := by simp [closeConn], closed := ?_ }
    intro c hc
    rcases List.mem_append.mp hc with hc | hc
    · exact h.wsConn_lt (by simpa using hc)
    · exact h.closed c hc
  · have hnone : s.wsConn = none := h.away (by rw [hp]; rfl)
    have hfresh : ∀ c ∈ s.closed, c < s.opened + 1 := fun c hc => Nat.lt_succ_of_lt (h.closed c hc)
    refine { quit := h.quit, mutex := h.mutex, running := by simp, installed := fun _ => ?_,
             away := by simp [Reconnect.away], flag := by simp, broken := ?_,
             closed := by simpa [closeConn, hnone] using hfresh, readFailed := ?_, message := ?_,
             heartbeat := ?_ }
    · refine ⟨s.opened, rfl, Nat.lt_succ_self _, fun hc => ?_⟩
      exact Nat.lt_irrefl _ (h.closed s.opened (by simpa [closeConn, hnone] using hc))
    · intro c hc hf
      obtain rfl := Option.some.inj hc
      exact absurd (h.readFailed s.opened hf) (Nat.lt_irrefl _)
    · exact fun c hc => Nat.lt_succ_of_lt (h.readFailed c hc)
    · exact fun c hc => Nat.lt_succ_of_lt (h.message c hc)
    · exact fun c hc => Nat.lt_succ_of_lt (h.heartbeat c hc)

lemma inv_step (h : Inv s) (hs : step s op = some t) : Inv t := by
  cases op with
  | heartbeat e => exact inv_heartbeat h hs
  | message e => exact inv_message h hs
  | reconnect e => exact inv_reconnect h hs

lemma inv_connect : Inv connect where
  quit := rfl
  mutex := rfl
  running := by simp [connect]
  installed _ := ⟨0, rfl, Nat.one_pos, by simp [connect]⟩
  away h := by cases h
  flag h := by cases h
  broken c _ hf := by simp [connect] at hf
  closed c hc := by simp [connect] at hc
  readFailed c hc := by simp [connect] at hc
  message c hc := by cases hc
  heartbeat c hc := by cases hc

lemma Inv.flag_iff (h : Inv s) (hrest : ¬ s.MidStep) (hch : s.reconnectCh = none) :
    s.connected = true ↔ ∃ conn, s.wsConn = some conn ∧ s.IsOpen conn := by
  simp only [MidStep, not_or, Bool.not_eq_true] at hrest
  obtain ⟨hhb, hm, hr⟩ := hrest
  have haway : s.reconnect.away = false := by
    cases hrec : s.reconnect <;> simp_all [Reconnect.midStep, Reconnect.away]
  have hsignalled : ¬ s.Signalled := by
    rintro (hc | ⟨origin, ho⟩ | ⟨conn, ho⟩ | ⟨origin, ho⟩)
    · exact hc hch
    · simp [ho, Reconnect.midStep] at hr
    · simp [ho, Message.midStep] at hm
    · simp [ho, Heartbeat.midStep] at hhb
  obtain ⟨conn, hconn, -, hclosed⟩ := h.installed haway
  refine iff_of_true ?_ ⟨conn, hconn, hclosed, fun hf => ?_⟩
  · by_contra hc
    rcases h.flag (by simpa using hc) with ha | hs
    · simp [haway] at ha
    · exact hsignalled hs
  · rcases h.broken conn hconn hf with hs | ⟨c, hc⟩
    · exact hsignalled hs
    · simp [hc, Message.midStep] at hm

end Invariant

namespace Client

variable (s : Client)

def Blames (origin : Option ConnID) : Prop :=
  ∃ conn, origin = some conn ∧ s.wsConn = some conn ∧ s.HasFailed conn

end Client

structure Timely (s : Client) : Prop where
  pending : ∀ origin, s.reconnectCh = some origin → s.reconnect = .waiting ∧ s.Blames origin
  taken : ∀ origin, s.reconnect = .taken origin → s.reconnectCh = none ∧ s.Blames origin
  message : ∀ conn, s.message = .failed conn ∨ s.message = .signalling conn → s.HasFailed conn
  heartbeat : ∀ conn, s.heartbeat = .failed conn ∨ s.heartbeat = .signalling (some conn) →
    s.HasFailed conn
  closes : ∀ conn origin, (conn, origin) ∈ s.closes → origin = some conn ∧ s.HasFailed conn

section Timely

open Client

variable {s t : Client} {e : Event} {op : Op}

lemma timely_signal {origin : Option ConnID} (h : Timely s) (hfresh : Fresh s origin)
    (hfailed : ∀ conn, origin = some conn → s.HasFailed conn) : Timely (s.signal origin) := by
  refine { h with pending := ?_, taken := ?_ }
  · intro o ho
    cases hch : s.reconnectCh with
    | some o' =>
      obtain rfl : o' = o := by simpa [signal, hch] using ho
      exact h.pending o' hch
    | none =>
      obtain rfl : origin = o := by simpa [signal, hch] using ho
      rcases hfresh with hne | ⟨hwaiting, conn, rfl, hconn⟩
      · exact absurd hch hne
      · exact ⟨hwaiting, conn, rfl, hconn, hfailed conn rfl⟩
  · intro o ho
    obtain ⟨hch, -⟩ := h.taken o ho
    rcases hfresh with hne | ⟨hwaiting, -⟩
    · exact absurd hch hne
    · have ho' : s.reconnect = .taken o := ho
      rw [hwaiting] at ho'
      cases ho'

lemma timely_of_failed (h : Timely s) {rs ps : List ConnID} (hrs : s.readFailed ⊆ rs)
    (hps : s.pingFailed ⊆ ps) : Timely { s with readFailed := rs, pingFailed := ps } := by
  have hfailed : ∀ conn, s.HasFailed conn →
      HasFailed { s with readFailed := rs, pingFailed := ps } conn :=
    fun conn hc => hc.imp (fun hr => hrs hr) (fun hp => hps hp)
  have hblames : ∀ origin, s.Blames origin →
      Blames { s with readFailed := rs, pingFailed := ps } origin := by
    rintro origin ⟨conn, ho, hc, hf⟩
    exact ⟨conn, ho, hc, hfailed conn hf⟩
  exact {
    pending := fun origin ho => (h.pending origin ho).imp id (hblames origin)
    taken := fun origin ho => (h.taken origin ho).imp id (hblames origin)
    message := fun conn hm => hfailed conn (h.message conn hm)
    heartbeat := fun conn hb => hfailed conn (h.heartbeat conn hb)
    closes := fun conn origin hc => (h.closes conn origin hc).imp id (hfailed conn) }

lemma timely_heartbeat (h : Timely s) (hg : FreshSignal s (.heartbeat e))
    (hs : s.heartbeatLoop e = some t) : Timely t := by
  rcases heartbeatLoop_cases hs with ⟨hb, n, rfl, hidle, hconn⟩ | ⟨conn, hb, n, hp, hnext, rfl⟩ |
    ⟨conn, hp, rfl⟩ | ⟨origin, rfl, hp, rfl⟩
  · refine { h with heartbeat := ?_ }
    rintro c (rfl | rfl) <;> simp [Heartbeat.conn] at hconn
  · have h' := timely_of_failed h (List.Subset.refl s.readFailed)
      (List.subset_cons_self conn s.pingFailed)
    refine { h' with heartbeat := ?_ }
    rintro c (hc | hc) <;> rcases hnext with rfl | rfl <;> cases hc
    exact .inr List.mem_cons_self
  · refine { h with heartbeat := ?_ }
    rintro c (hc | hc) <;> cases hc
    exact h.heartbeat conn (.inl hp)
  · have hfresh : Fresh s origin := by simpa [FreshSignal, hp] using hg
    have h' := timely_signal h hfresh fun conn hc => h.heartbeat conn (.inr (hc ▸ hp))
    exact { h' with heartbeat := by simp }

lemma timely_message (h : Timely s) (hg : FreshSignal s (.message e))
    (hs : s.messageLoop e = some t) : Timely t := by
  rcases messageLoop_cases hs with ⟨m, d, rfl, -, hidle, hgood, -, -, hconn⟩ |
    ⟨conn, -, hp, rfl⟩ | ⟨conn, -, hp, rfl⟩ | ⟨conn, rfl, hp, rfl⟩
  · refine { h with message := ?_ }
    rintro c (rfl | rfl) <;> simp [Message.conn] at hconn
  · have h' := timely_of_failed h (List.subset_cons_self conn s.readFailed)
      (List.Subset.refl s.pingFailed)
    refine { h' with message := ?_ }
    rintro c (hc | hc) <;> cases hc
    exact .inl List.mem_cons_self
  · refine { h with message := ?_ }
    rintro c (hc | hc) <;> cases hc
    exact h.message conn (.inl hp)
  · have hfresh : Fresh s (some conn) := by simpa [FreshSignal, hp] using hg
    have hfailed := h.message conn (.inr hp)
    have h' := timely_signal h hfresh fun c hc => Option.some.inj hc ▸ hfailed
    exact { h' with message := by simp }

lemma timely_reconnect (hi : Inv s) (h : Timely s) (hs : s.reconnectLoop e = some t) :
    Timely t := by
  have hempty : s.reconnect ≠ .waiting → s.reconnectCh = none := by
    intro hr
    cases hch : s.reconnectCh with
    | none => rfl
    | some origin => exact absurd (h.pending origin hch).1 hr
  rcases reconnectLoop_cases hs with ⟨hq, -⟩ | ⟨r, rfl, haway, hr⟩ | ⟨origin, hp, hch, rfl⟩ |
    ⟨origin, -, hp, rfl⟩ | ⟨-, hp, rfl⟩
  · exact absurd hq (by simp [hi.quit])
  · have hch : s.reconnectCh = none := by
      apply hempty
      intro hw
      simp [hw, Reconnect.away] at haway
    refine { h with pending := by simp [hch], taken := ?_ }
    rintro origin rfl
    cases hr
  · refine { h with pending := by simp, taken := ?_ }
    intro o ho
    obtain rfl := Reconnect.taken.inj ho
    exact ⟨rfl, (h.pending origin hch).2⟩
  · have hch : s.reconnectCh = none := hempty (by simp [hp])
    obtain ⟨-, conn, rfl, hconn, hfailed⟩ := h.taken origin hp
    refine { h with pending := by simp [closeConn, hch], taken := by simp, closes := ?_ }
    intro c o hc
    rcases List.mem_append.mp hc with hc | hc
    · exact h.closes c o hc
    · obtain ⟨rfl, rfl⟩ : c = conn ∧ o = some conn := by simpa [hconn] using hc
      exact ⟨rfl, hfailed⟩
  · have hch : s.reconnectCh = none := hempty (by simp [hp])
    have hnone : s.wsConn = none := hi.away (by rw [hp]; rfl)
    refine { h with pending := by simp [closeConn, hch], taken := by simp, closes := ?_ }
    intro c o hc
    exact h.closes c o (by simpa [hnone] using hc)

lemma timely_step (hi : Inv s) (h : Timely s) (hg : FreshSignal s op) (hs : step s op = some t) :
    Timely t := by
  cases op with
  | heartbeat e => exact timely_heartbeat h hg hs
  | message e => exact timely_message h hg hs
  | reconnect e => exact timely_reconnect hi h hs

lemma timely_connect : Timely connect where
  pending origin h := by cases h
  taken origin h := by cases h
  message conn h := by rcases h with h | h <;> cases h
  heartbeat conn h := by rcases h with h | h <;> cases h
  closes conn origin h := by simp [connect] at h

end Timely

/-- The loops can go on to close a connection that has not failed. -/
def Doomed (s : Client) : Prop := ∃ ops, ¬ Always step ReconnectKept s ops

structure Left (s : Client) (origin : Option ConnID) : Prop where
  quit : s.quit = false
  mutex : s.mutex = false
  pending : s.reconnectCh = some origin
  old : ∀ conn, origin = some conn → conn < s.opened

section Doomed

open Client

variable {s t : Client} {op : Op} {origin : Option ConnID}

lemma doomed_of_step (hs : step s op = some t) (h : Doomed t) : Doomed s := by
  obtain ⟨ops, hops⟩ := h
  exact ⟨op :: ops, fun halways => hops (halways.2 t hs)⟩

lemma doomed_of_waiting {conn : ConnID} (h : Left s origin) (hr : s.reconnect = .waiting)
    (hconn : s.wsConn = some conn) (hne : origin ≠ some conn) : Doomed s := by
  have htake : step s (.reconnect .go) =
      some { s with reconnectCh := none, reconnect := .taken origin } := by
    simp [step, reconnectLoop, hr, h.pending]
  apply doomed_of_step htake
  have hclose : step { s with reconnectCh := none, reconnect := .taken origin } (.reconnect .go) =
      some { closeConn { s with reconnectCh := none, reconnect := .taken origin } with
        connected := false
        reconnect := .redialing
        closes := s.closes ++ s.wsConn.toList.map fun conn => (conn, origin) } := by
    simp [step, reconnectLoop, h.mutex]
  apply doomed_of_step hclose
  refine ⟨[], fun hkept => ?_⟩
  exact hne (hkept.closes conn origin (by simp [hconn])).1

lemma doomed_of_dialed (h : Left s origin) (hr : s.reconnect = .dialed) : Doomed s := by
  have hinstall : step s (.reconnect .go) = some
      { s.closeConn with
        wsConn := some s.opened
        opened := s.opened + 1
        connected := true
        reconnect := .waiting
        closes := s.closes ++ s.wsConn.toList.map fun conn => (conn, none) } := by
    simp [step, reconnectLoop, hr, h.mutex]
  apply doomed_of_step hinstall
  have hold : ∀ conn, origin = some conn → conn < s.opened + 1 :=
    fun conn hc => Nat.lt_succ_of_lt (h.old conn hc)
  refine doomed_of_waiting ⟨h.quit, h.mutex, h.pending, hold⟩ rfl rfl fun ho => ?_
  exact absurd (h.old s.opened ho) (Nat.lt_irrefl _)

lemma doomed_of_redialing (h : Left s origin) (hr : s.reconnect = .redialing) : Doomed s := by
  have hdial : step s (.reconnect .go) = some { s with reconnect := .dialing } := by
    simp [step, reconnectLoop, hr, h.quit]
  apply doomed_of_step hdial
  have hok : step { s with reconnect := .dialing } (.reconnect .ok) =
      some { s with reconnect := .dialed } := rfl
  apply doomed_of_step hok
  exact doomed_of_dialed { h with } rfl

lemma doomed_of_left (hi : Inv s) (h : Left s origin)
    (hstale : ¬ (s.reconnect = .waiting ∧ ∃ conn, origin = some conn ∧ s.wsConn = some conn)) :
    Doomed s := by
  cases hr : s.reconnect with
  | waiting =>
    obtain ⟨conn, hconn, -⟩ := hi.installed (by rw [hr]; rfl)
    exact doomed_of_waiting h hr hconn fun ho => hstale ⟨hr, conn, ho, hconn⟩
  | taken o =>
    have hclose : step s (.reconnect .go) = some
        { s.closeConn with
          connected := false
          reconnect := .redialing
          closes := s.closes ++ s.wsConn.toList.map fun conn => (conn, o) } := by
      simp [step, reconnectLoop, hr, h.mutex]
    exact doomed_of_step hclose (doomed_of_redialing { h with } rfl)
  | redialing => exact doomed_of_redialing h hr
  | dialing =>
    have hok : step s (.reconnect .ok) = some { s with reconnect := .dialed } := by
      simp [step, reconnectLoop, hr]
    exact doomed_of_step hok (doomed_of_dialed { h with } rfl)
  | dialed => exact doomed_of_dialed h hr
  | backingOff =>
    have hback : step s (.reconnect .go) = some { s with reconnect := .redialing } := by
      simp [step, reconnectLoop, hr]
    exact doomed_of_step hback (doomed_of_redialing { h with } rfl)
  | stopped => exact absurd hr hi.running

lemma left_of_not_fresh (hi : Inv s) (hg : ¬ FreshSignal s op) (hs : step s op = some t) :
    ∃ origin, Left t origin ∧
      ¬ (t.reconnect = .waiting ∧ ∃ conn, origin = some conn ∧ t.wsConn = some conn) := by
  have hnew : ∀ origin, ¬ Fresh s origin → (s.signal origin).reconnectCh = some origin ∧
      ¬ (s.reconnect = .waiting ∧ ∃ conn, origin = some conn ∧ s.wsConn = some conn) := by
    intro origin hfresh
    obtain ⟨hch, hstale⟩ := not_or.mp hfresh
    exact ⟨by simp [signal, not_not.mp hch], hstale⟩
  cases op with
  | heartbeat e =>
    rcases heartbeatLoop_cases hs with ⟨hb, n, rfl, hidle, hconn⟩ | ⟨conn, hb, n, hp, hnext, rfl⟩ |
      ⟨conn, hp, rfl⟩ | ⟨origin, rfl, hp, rfl⟩
    · cases e <;> cases hb' : s.heartbeat <;> simp [FreshSignal, hb'] at hg
      exact absurd hb' (hidle _)
    · cases e <;> simp [FreshSignal, hp] at hg
    · cases e <;> simp [FreshSignal, hp] at hg
    · obtain ⟨hpending, hstale⟩ := hnew origin (by simpa [FreshSignal, hp] using hg)
      refine ⟨origin, ⟨hi.quit, hi.mutex, hpending, fun conn hc => ?_⟩, hstale⟩
      exact hi.heartbeat conn (by rw [hp]; exact hc)
  | message e =>
    rcases messageLoop_cases hs with ⟨m, d, rfl, -, hidle, -, -, -, -⟩ |
      ⟨conn, rfl, -, rfl⟩ | ⟨conn, rfl, hp, rfl⟩ | ⟨conn, rfl, hp, rfl⟩
    · cases e <;> cases hm' : s.message <;> simp [FreshSignal, hm'] at hg
      exact absurd hm' (hidle _)
    · simp [FreshSignal] at hg
    · simp [FreshSignal, hp] at hg
    · obtain ⟨hpending, hstale⟩ := hnew (some conn) (by simpa [FreshSignal, hp] using hg)
      refine ⟨some conn, ⟨hi.quit, hi.mutex, hpending, fun c hc => ?_⟩, hstale⟩
      exact hi.message c (by rw [hp]; exact hc)
  | reconnect e => simp [FreshSignal] at hg

end Doomed

def lateRead : List Op :=
  [.message .go, .message .go] ++
    (List.replicate 3 [.heartbeat .go, .heartbeat .go, .heartbeat .fail]).flatten ++
    [.heartbeat .go, .heartbeat .go,
      .reconnect .go, .reconnect .go, .reconnect .go, .reconnect .ok, .reconnect .go,
      .message .fail, .message .go, .message .go,
      .reconnect .go, .reconnect .go]

theorem reconnect_kept_fails : ¬ ∀ ops, Always step ReconnectKept connect ops := by
  intro h
  have hrun : ∃ s, run step connect lateRead = some s ∧ (1, some 0) ∈ s.closes ∧
      ¬ s.HasFailed 1 := by
    refine ⟨_, rfl, by decide, ?_⟩
    rintro (hc | hc) <;> revert hc <;> decide
  obtain ⟨s, hs, hclosed, hgood⟩ := hrun
  exact hgood (((h lateRead).last hs).closes 1 (some 0) hclosed).2

theorem reconnect_kept_of_fresh (ops : List Op) :
    (Guarded step FreshSignal connect ops → Always step ReconnectKept connect ops) ∧
    ∀ s op t, run step connect ops = some s → step s op = some t → ¬ FreshSignal s op →
      ∃ more, ¬ Always step ReconnectKept t more := by
  constructor
  · intro hg
    have halways : Always step (fun s => Inv s ∧ Timely s) connect ops :=
      always_of_guarded ⟨inv_connect, timely_connect⟩ hg fun s op t h hg hs =>
        ⟨inv_step h.1 hs, timely_step h.1 h.2 hg hs⟩
    exact halways.mono fun s h => ⟨h.2.closes, h.1.flag_iff⟩
  · intro s op t hr hs hg
    have hi : Inv s := run_invariant inv_connect hr fun _ _ _ h hs => inv_step h hs
    obtain ⟨origin, hleft, hstale⟩ := left_of_not_fresh hi hg hs
    exact doomed_of_left (inv_step hi hs) hleft hstale

end OmniTun.Control.AgentClient
