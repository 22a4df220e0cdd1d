import OmniTun.Control.AgentClient

/-! `Disconnect` beside the loops: it waits for `messageLoop` and holds the mutex meanwhile. -/

namespace OmniTun.Control.AgentClient

open OmniTun.Foundation Transition

inductive Task
  | loop (op : Op)
  | disconnect
  deriving DecidableEq, Repr

def stepAll (s : Client) : Task → Option Client
  | .loop op => step s op
  | .disconnect => s.disconnectStep

def Client.Held (s : Client) : Prop :=
  match s.message with
  | .checked | .failed _ => True
  | .reading conn => s.IsOpen conn
  | _ => False

def NoDeadlock (s : Client) : Prop := s.disconnect = .waiting → ¬ s.Held

def Unheld (s : Client) : Task → Prop
  | .disconnect => s.disconnect = .locked → ¬ s.Held
  | .loop (.message .fail) => s.disconnect ≠ .waiting
  | .loop _ => True

structure Exclusive (s : Client) : Prop where
  mutex : s.mutex = true ↔ s.disconnect ≠ .idle
  quit : s.disconnect = .waiting → s.quit = true

structure Untouched (s t : Client) : Prop where
  disconnect : t.disconnect = s.disconnect
  mutex : t.mutex = s.mutex
  quit : t.quit = s.quit

structure Aside (s t : Client) : Prop where
  message : t.message = s.message
  done : t.done = s.done
  readFailed : t.readFailed = s.readFailed
  closed : s.mutex = true → t.closed = s.closed

section Held

open Client

variable {s t : Client} {e : Event} {op : Op} {task : Task}

lemma Untouched.exclusive (h : Untouched s t) (hs : Exclusive s) : Exclusive t := by
  refine ⟨?_, ?_⟩
  · rw [h.mutex, h.disconnect]
    exact hs.mutex
  · rw [h.disconnect, h.quit]
    exact hs.quit

lemma Exclusive.locked (h : Exclusive s) (hw : s.disconnect = .waiting) : s.mutex = true :=
  h.mutex.mpr (by simp [hw])

lemma untouched_step (hs : step s op = some t) : Untouched s t := by
  cases op with
  | heartbeat e =>
    rcases heartbeatLoop_cases hs with ⟨_, _, rfl, -⟩ | ⟨_, _, _, -, -, rfl⟩ | ⟨_, -, rfl⟩ |
      ⟨_, -, -, rfl⟩ <;> exact ⟨rfl, rfl, rfl⟩
  | message e =>
    rcases messageLoop_cases hs with ⟨_, _, rfl, -⟩ | ⟨_, -, -, rfl⟩ | ⟨_, -, -, rfl⟩ |
      ⟨_, -, -, rfl⟩ <;> exact ⟨rfl, rfl, rfl⟩
  | reconnect e =>
    rcases reconnectLoop_cases hs with ⟨-, rfl⟩ | ⟨_, rfl, -⟩ | ⟨_, -, -, rfl⟩ | ⟨_, -, -, rfl⟩ |
      ⟨-, -, rfl⟩ <;> exact ⟨rfl, rfl, rfl⟩

lemma aside_step (hs : step s op = some t) (hop : ∀ e, op ≠ .message e) : Aside s t := by
  cases op with
  | heartbeat e =>
    rcases heartbeatLoop_cases hs with ⟨_, _, rfl, -⟩ | ⟨_, _, _, -, -, rfl⟩ | ⟨_, -, rfl⟩ |
      ⟨_, -, -, rfl⟩ <;> exact ⟨rfl, rfl, rfl, fun _ => rfl⟩
  | message e => exact absurd rfl (hop e)
  | reconnect e =>
    rcases reconnectLoop_cases hs with ⟨-, rfl⟩ | ⟨_, rfl, -⟩ | ⟨_, -, -, rfl⟩ |
      ⟨_, hfree, -, rfl⟩ | ⟨hfree, -, rfl⟩
    · exact ⟨rfl, rfl, rfl, fun _ => rfl⟩
    · exact ⟨rfl, rfl, rfl, fun _ => rfl⟩
    · exact ⟨rfl, rfl, rfl, fun _ => rfl⟩
    · exact ⟨rfl, rfl, rfl, fun hm => by simp [hm] at hfree⟩
    · exact ⟨rfl, rfl, rfl, fun hm => by simp [hm] at hfree⟩

lemma Aside.held_iff (h : Aside s t) (hm : s.mutex = true) : t.Held ↔ s.Held := by
  simp only [Held, Client.IsOpen, h.message, h.readFailed, h.closed hm]

lemma held_message (hs : s.messageLoop e = some t) (hm : s.mutex = true) (hq : s.quit = true) :
    t.Held ↔ e = .fail := by
  rcases messageLoop_cases hs with ⟨m, d, rfl, he, -, -, hchecked, -, hconn⟩ | ⟨conn, he, -, rfl⟩ |
    ⟨conn, he, -, rfl⟩ | ⟨conn, he, -, rfl⟩
  · refine iff_of_false (fun hheld => ?_) he
    rcases hconn with hnone | ⟨-, hfree, -⟩
    · cases m <;> simp [Held, Message.conn] at hheld hnone
      simp [hq] at hchecked
    · simp [hm] at hfree
  · exact iff_of_true trivial he
  · simp [Held, he]
  · simp [Held, he]

lemma noDeadlock_loop (hp : NoDeadlock s) (hx : Exclusive s) (hs : step s op = some t) :
    NoDeadlock t ↔ Unheld s (.loop op) := by
  have hsame := (untouched_step hs).disconnect
  by_cases hw : s.disconnect = .waiting
  · have hm := hx.locked hw
    have hstill : NoDeadlock t ↔ ¬ t.Held := by simp [NoDeadlock, hsame, hw]
    rw [hstill]
    cases op with
    | heartbeat e => simpa [Unheld, (aside_step hs (by simp)).held_iff hm] using hp hw
    | message e =>
      rw [held_message hs hm (hx.quit hw)]
      cases e <;> simp [Unheld, hw]
    | reconnect e => simpa [Unheld, (aside_step hs (by simp)).held_iff hm] using hp hw
  · have hfree : NoDeadlock t := fun ht => absurd (hsame ▸ ht) hw
    have hguard : Unheld s (.loop op) := by
      rcases op with e | e | e <;> cases e <;> simp [Unheld, hw]
    exact iff_of_true hfree hguard

lemma noDeadlock_disconnect (hx : Exclusive s) (hs : s.disconnectStep = some t) :
    (NoDeadlock t ↔ Unheld s .disconnect) ∧ Exclusive t := by
  cases hd : s.disconnect <;> simp only [disconnectStep, hd] at hs
  case idle =>
    obtain ⟨-, hs⟩ := Option.ite_none_left_eq_some.mp hs
    split_ifs at hs <;> obtain rfl := Option.some.inj hs
    · exact ⟨by simp [NoDeadlock, Unheld, hd], by simp, by simp⟩
    · exact ⟨by simp [NoDeadlock, Unheld, hd], hx⟩
  case locked =>
    split_ifs at hs
    obtain rfl := Option.some.inj hs
    have hm : s.mutex = true := hx.mutex.mpr (by simp [hd])
    exact ⟨by simp [NoDeadlock, Unheld, hd, Held, Client.IsOpen], by simp [hm], by simp⟩
  case waiting =>
    split_ifs at hs
    obtain rfl := Option.some.inj hs
    exact ⟨by simp [NoDeadlock, Unheld, hd], by simp, by simp⟩

lemma finished_step (hf : s.done = true → s.message = .returned) (hs : stepAll s task = some t) :
    t.done = true → t.message = .returned := by
  cases task with
  | disconnect =>
    cases hd : s.disconnect <;> simp only [stepAll, disconnectStep, hd] at hs <;>
      split_ifs at hs <;> obtain rfl := Option.some.inj hs <;> exact hf
  | loop op =>
    have haside : Aside s t → t.done = true → t.message = .returned :=
      fun h hdone => h.message.trans (hf (h.done ▸ hdone))
    have hloop : step s op = some t := hs
    cases op with
    | heartbeat e => exact haside (aside_step hloop (by simp))
    | reconnect e => exact haside (aside_step hloop (by simp))
    | message e =>
      rcases messageLoop_cases hs with ⟨m, d, rfl, -, -, -, -, hd, -⟩ | ⟨conn, -, hm, rfl⟩ |
        ⟨conn, -, hm, rfl⟩ | ⟨conn, -, hm, rfl⟩ <;> intro hdone
      · rcases hd with rfl | rfl
        · simp [stepAll, step, messageLoop, hf hdone] at hs
        · rfl
      all_goals
        have hreturned := hf hdone
        simp [hm] at hreturned

lemma deadlock_stays (hx : Exclusive s) (hf : s.done = true → s.message = .returned)
    (hw : s.disconnect = .waiting) (hheld : s.Held) (hs : stepAll s task = some t)
    (hsilent : task ≠ .loop (.message .ok)) : t.disconnect = .waiting ∧ t.Held := by
  have hm := hx.locked hw
  cases task with
  | disconnect =>
    have hdone : s.done = true := by
      by_contra hdone
      simp [stepAll, disconnectStep, hw, hdone] at hs
    simp [Held, hf hdone] at hheld
  | loop op =>
    have hloop : step s op = some t := hs
    refine ⟨(untouched_step hloop).disconnect.trans hw, ?_⟩
    cases op with
    | heartbeat e => exact ((aside_step hloop (by simp)).held_iff hm).mpr hheld
    | reconnect e => exact ((aside_step hloop (by simp)).held_iff hm).mpr hheld
    | message e =>
      apply (held_message hs hm (hx.quit hw)).mpr
      cases e with
      | fail => rfl
      | ok => exact absurd rfl hsilent
      | go =>
        cases hmsg : s.message <;> simp only [Held, hmsg] at hheld <;>
          simp [stepAll, step, messageLoop, hmsg, hm] at hs
      | quit => cases hmsg : s.message <;> simp [stepAll, step, messageLoop, hmsg] at hs

structure Sound (s : Client) : Prop where
  exclusive : Exclusive s
  finished : s.done = true → s.message = .returned

lemma sound_connect : Sound connect := ⟨⟨by simp [connect], by simp [connect]⟩, by simp [connect]⟩

lemma sound_step (h : Sound s) (hs : stepAll s task = some t) : Sound t := by
  refine ⟨?_, finished_step h.finished hs⟩
  cases task with
  | loop op => exact (untouched_step hs).exclusive h.exclusive
  | disconnect => exact (noDeadlock_disconnect h.exclusive hs).2

/-- While the server stays silent, `Disconnect` does not return. -/
theorem deadlock_forever {tasks : List Task} (h : Sound s) (hw : s.disconnect = .waiting)
    (hheld : s.Held) (hsilent : .loop (.message .ok) ∉ tasks) (hr : run stepAll s tasks = some t) :
    t.disconnect = .waiting := by
  induction tasks generalizing s with
  | nil => exact Option.some.inj hr ▸ hw
  | cons task tasks ih =>
    obtain ⟨u, hu, hr'⟩ := Option.bind_eq_some_iff.mp hr
    obtain ⟨hfirst, hrest⟩ := not_or.mp (List.mem_cons.not.mp hsilent)
    obtain ⟨hw', hheld'⟩ := deadlock_stays h.exclusive h.finished hw hheld hu (Ne.symm hfirst)
    exact ih (sound_step h hu) hw' hheld' hrest hr'

end Held

theorem no_deadlock_iff (tasks : List Task) :
    Always stepAll NoDeadlock connect tasks ↔ Guarded stepAll Unheld connect tasks := by
  have hstart : NoDeadlock connect := by simp [NoDeadlock, connect]
  apply always_iff_guarded hstart sound_connect
  intro s task t hp hsound hs
  refine ⟨?_, fun _ => sound_step hsound hs⟩
  cases task with
  | loop op => exact noDeadlock_loop hp hsound.exclusive hs
  | disconnect => exact (noDeadlock_disconnect hsound.exclusive hs).1

theorem no_deadlock_fails :
    ¬ Always stepAll NoDeadlock connect
      [.loop (.message .go), .loop (.message .go), .disconnect, .disconnect] := by
  intro h
  have hrun : ∃ s, run stepAll connect
      [.loop (.message .go), .loop (.message .go), .disconnect, .disconnect] = some s ∧
      s.disconnect = .waiting ∧ s.Held := by
    refine ⟨_, rfl, rfl, ?_⟩
    simp [Client.Held, Client.IsOpen, connect]
  obtain ⟨s, hs, hw, hheld⟩ := hrun
  exact h.last hs hw hheld

end OmniTun.Control.AgentClient
