import Mathlib.Algebra.Order.Ring.Nat
import Mathlib.Data.List.Count
import OmniTun.Foundation.Progress

/-! The console's WebSocket client: its reconnections, whatever the sockets, the timers and the
listeners of its state do. -/

namespace OmniTun.Web.Realtime

open Foundation.Transition

inductive ConnectionState
  | connecting
  | connected
  | disconnected
  | reconnecting
  deriving DecidableEq, Repr

inductive ReadyState
  | connecting
  | opened
  | closing
  | closed
  deriving DecidableEq, Repr

/-- `sockets` are the sockets that the client has created, in their order, and `timers` the pending
ones with their delays. -/
structure OmniTunWS where
  sockets : List ReadyState
  timers : List (ℕ × ℕ)
  nextTimer : ℕ
  ws : Option ℕ
  timer : Option ℕ
  reconnectAttempts : ℕ
  destroyed : Bool
  state : ConnectionState
  deriving DecidableEq

def maxReconnectAttempts : ℕ := 10
def baseDelay : ℕ := 1000
def maxDelay : ℕ := 30000

/-- What goes on around one task: whether a listener that is told of a state calls `close`, and
whether the constructor of the socket throws. -/
structure Env where
  closes : ConnectionState → Bool
  throws : Bool

def ReadyState.close : ReadyState → ReadyState
  | .connecting => .closing
  | .opened => .closing
  | s => s

namespace OmniTunWS

def closeSocket (c : OmniTunWS) : OmniTunWS :=
  match c.ws with
  | some k => { c with sockets := c.sockets.modify k ReadyState.close }
  | none => c

def clearTimer (c : OmniTunWS) : OmniTunWS :=
  match c.timer with
  | some t => { c with timers := c.timers.filter fun p => p.1 != t }
  | none => c

def close (c : OmniTunWS) : OmniTunWS :=
  { (({ c with destroyed := true }).clearTimer).closeSocket with state := .disconnected }

/-- A listener that closes the client does so before `setState` returns. -/
def setState (env : Env) (s : ConnectionState) (c : OmniTunWS) : OmniTunWS :=
  let c := { c with state := s }
  if env.closes s then c.close else c

def delay (attempts : ℕ) : ℕ := min (baseDelay * 2 ^ attempts) maxDelay

def scheduleReconnect (env : Env) (c : OmniTunWS) : OmniTunWS :=
  if c.destroyed then c
  else if maxReconnectAttempts ≤ c.reconnectAttempts then c
  else
    let c := c.setState env .reconnecting
    { c with
      reconnectAttempts := c.reconnectAttempts + 1
      timers := c.timers ++ [(c.nextTimer, delay c.reconnectAttempts)]
      nextTimer := c.nextTimer + 1
      timer := some c.nextTimer }

def connect (env : Env) (c : OmniTunWS) : OmniTunWS :=
  if c.destroyed then c
  else
    let c := c.setState env .connecting
    if env.throws then c.scheduleReconnect env
    else { c with sockets := c.sockets ++ [.connecting], ws := some c.sockets.length }

def onopen (env : Env) (c : OmniTunWS) : OmniTunWS :=
  ({ c with reconnectAttempts := 0 }).setState env .connected

def onclose (env : Env) (c : OmniTunWS) : OmniTunWS :=
  if c.destroyed then c else (c.setState env .disconnected).scheduleReconnect env

end OmniTunWS

inductive Task
  | opened (k : ℕ)
  | closed (k : ℕ)
  | fired (t : ℕ)
  | close
  deriving DecidableEq

/-- A socket opens while it connects, and it ends once. -/
def step (c : OmniTunWS) : Task × Env → Option OmniTunWS
  | (.opened k, env) =>
    if c.sockets[k]? = some .connecting then
      some (({ c with sockets := c.sockets.set k .opened }).onopen env)
    else none
  | (.closed k, env) =>
    match c.sockets[k]? with
    | none => none
    | some .closed => none
    | some _ => some (({ c with sockets := c.sockets.set k .closed }).onclose env)
  | (.fired t, env) =>
    if t ∈ c.timers.map Prod.fst then
      some (({ c with timers := c.timers.filter fun p => p.1 != t }).connect env)
    else none
  | (.close, _) => some c.close

/-- The constructor connects when nobody listens yet. -/
def construct (throws : Bool) : OmniTunWS :=
  OmniTunWS.connect ⟨fun _ => false, throws⟩
    ⟨[], [], 0, none, none, 0, false, .disconnected⟩

/-! What is left between two tasks. -/

def AllClosed (c : OmniTunWS) : Prop := ∀ s ∈ c.sockets, s = .closed

structure Tidy (c : OmniTunWS) : Prop where
  alone : ∀ k s, c.sockets[k]? = some s → s ≠ .closed → c.ws = some k
  armed : ∀ p ∈ c.timers, c.timer = some p.1 ∧ 0 < c.reconnectAttempts ∧
    p.2 = OmniTunWS.delay (c.reconnectAttempts - 1)
  one : c.timers.length ≤ 1
  quiet : c.timers ≠ [] → AllClosed c
  bounded : c.reconnectAttempts ≤ maxReconnectAttempts

structure Sound (c : OmniTunWS) : Prop extends Tidy c where
  trying : c.destroyed = false → AllClosed c → c.timers = [] →
    c.reconnectAttempts = maxReconnectAttempts

structure Idle (c : OmniTunWS) : Prop where
  closed : AllClosed c
  timers : c.timers = []
  bounded : c.reconnectAttempts ≤ maxReconnectAttempts

variable {c c' : OmniTunWS} (env : Env)

lemma Idle.tidy (h : Idle c) : Tidy c where
  alone k s hk hs := absurd (h.closed s (List.mem_of_getElem? hk)) hs
  armed p hp := by simp [h.timers] at hp
  one := by simp [h.timers]
  quiet hne := absurd h.timers hne
  bounded := h.bounded

lemma Idle.sound (h : Idle c) (hd : c.destroyed = true) : Sound c :=
  ⟨h.tidy, fun hf => by simp [hd] at hf⟩

/-! Closing. -/

namespace OmniTunWS

@[simp] lemma close_destroyed : c.close.destroyed = true := by
  unfold close closeSocket clearTimer
  split <;> split <;> rfl

@[simp] lemma close_state : c.close.state = .disconnected := rfl

@[simp] lemma close_attempts : c.close.reconnectAttempts = c.reconnectAttempts := by
  unfold close closeSocket clearTimer
  split <;> split <;> rfl

@[simp] lemma close_ws : c.close.ws = c.ws := by
  unfold close closeSocket clearTimer
  split <;> split <;> simp_all

lemma close_timers : c.close.timers = match c.timer with
    | some t => c.timers.filter fun p => p.1 != t
    | none => c.timers := by
  unfold close closeSocket clearTimer
  split <;> split <;> simp_all

lemma close_sockets : c.close.sockets = match c.ws with
    | some k => c.sockets.modify k ReadyState.close
    | none => c.sockets := by
  unfold close closeSocket clearTimer
  split <;> split <;> simp_all

end OmniTunWS

lemma close_getElem {k : ℕ} {s : ReadyState} (h : c.close.sockets[k]? = some s) :
    ∃ s', c.sockets[k]? = some s' ∧ (s = s' ∧ c.ws ≠ some k ∨ s = s'.close ∧ c.ws = some k) := by
  rw [OmniTunWS.close_sockets] at h
  cases hw : c.ws with
  | none =>
    simp only [hw] at h
    exact ⟨s, h, .inl ⟨rfl, by simp⟩⟩
  | some j =>
    simp only [hw, List.getElem?_modify] at h
    obtain ⟨s', hs', rfl⟩ := Option.map_eq_some_iff.mp h
    refine ⟨s', hs', ?_⟩
    by_cases hj : j = k
    · right
      simp [hj]
    · left
      simp [hj]

lemma ReadyState.close_ne_closed {s : ReadyState} (h : s.close ≠ .closed) : s ≠ .closed := by
  rintro rfl
  exact h rfl

lemma close_allClosed (h : AllClosed c) : AllClosed c.close := by
  intro s hs
  obtain ⟨k, hk⟩ := List.getElem?_of_mem hs
  obtain ⟨s', hs', hcase⟩ := close_getElem hk
  have hclosed := h s' (List.mem_of_getElem? hs')
  subst hclosed
  rcases hcase with ⟨rfl, -⟩ | ⟨rfl, -⟩ <;> rfl

lemma Tidy.close_timers (h : Tidy c) : c.close.timers = [] := by
  rw [OmniTunWS.close_timers]
  cases ht : c.timer with
  | none =>
    apply List.eq_nil_iff_forall_not_mem.mpr
    intro p hp
    simpa [ht] using (h.armed p hp).1
  | some t =>
    simp only [List.filter_eq_nil_iff]
    intro p hp
    have harmed := (h.armed p hp).1
    rw [ht] at harmed
    simp [Option.some.inj harmed]

lemma Tidy.close (h : Tidy c) : Tidy c.close where
  alone k s hk hs := by
    obtain ⟨s', hs', hcase⟩ := close_getElem hk
    rw [OmniTunWS.close_ws]
    apply h.alone k s' hs'
    rcases hcase with ⟨rfl, -⟩ | ⟨rfl, -⟩
    · exact hs
    · exact ReadyState.close_ne_closed hs
  armed p hp := by simp [h.close_timers] at hp
  one := by simp [h.close_timers]
  quiet hne := absurd h.close_timers hne
  bounded := by simpa using h.bounded

lemma Tidy.close_sound (h : Tidy c) : Sound c.close := ⟨h.close, fun hf => by simp at hf⟩

/-! The states told to the listeners. -/

lemma setState_cases (s : ConnectionState) :
    c.setState env s = { c with state := s } ∨
      c.setState env s = ({ c with state := s }).close := by
  unfold OmniTunWS.setState
  dsimp only
  split_ifs
  · exact .inr rfl
  · exact .inl rfl

lemma Idle.close (h : Idle c) : Idle c.close where
  closed := close_allClosed h.closed
  timers := h.tidy.close_timers
  bounded := by simpa using h.bounded

lemma Idle.setState (h : Idle c) (s : ConnectionState) : Idle (c.setState env s) := by
  have h' : Idle { c with state := s } := ⟨h.closed, h.timers, h.bounded⟩
  rcases setState_cases env s with heq | heq
  · exact heq ▸ h'
  · exact heq ▸ h'.close

lemma Idle.scheduleReconnect (h : Idle c) : Sound (c.scheduleReconnect env) := by
  unfold OmniTunWS.scheduleReconnect
  split_ifs with hd ha
  · exact h.sound hd
  · exact ⟨h.tidy, fun _ _ _ => Nat.le_antisymm h.bounded ha⟩
  · have hidle := h.setState env .reconnecting
    have hattempts : (c.setState env .reconnecting).reconnectAttempts = c.reconnectAttempts := by
      rcases setState_cases (c := c) env .reconnecting with heq | heq <;> simp [heq]
    refine ⟨⟨?_, ?_, ?_, ?_, ?_⟩, ?_⟩
    · exact hidle.tidy.alone
    · intro p hp
      simp only [hidle.timers, List.nil_append, List.mem_singleton] at hp
      subst hp
      simp
    · simp [hidle.timers]
    · exact fun _ => hidle.closed
    · dsimp only
      omega
    · intro _ _ ht
      simp at ht

lemma Idle.create (h : Idle c) :
    Sound { c with sockets := c.sockets ++ [.connecting], ws := some c.sockets.length } := by
  refine ⟨⟨?_, ?_, ?_, ?_, ?_⟩, ?_⟩
  · intro k s hk hs
    dsimp only at hk
    by_cases hlt : k < c.sockets.length
    · rw [List.getElem?_append_left hlt] at hk
      exact absurd (h.closed s (List.mem_of_getElem? hk)) hs
    · have hle := (List.getElem?_eq_some_iff.mp hk).1
      simp only [List.length_append, List.length_singleton] at hle
      simp only [Option.some.injEq]
      omega
  · intro p hp
    simp [h.timers] at hp
  · simp [h.timers]
  · exact fun hne => absurd h.timers hne
  · exact h.bounded
  · intro _ hall _
    have hconnecting := hall .connecting (by simp)
    cases hconnecting

lemma Idle.connect (h : Idle c) : Sound (c.connect env) := by
  have hidle := h.setState env .connecting
  unfold OmniTunWS.connect
  split_ifs with hd ht
  · exact h.sound hd
  · exact hidle.scheduleReconnect env
  · exact hidle.create

/-! One task. -/

lemma Tidy.allClosed_set {k : ℕ} {s : ReadyState} (h : Tidy c) (hk : c.sockets[k]? = some s)
    (hs : s ≠ .closed) : AllClosed { c with sockets := c.sockets.set k .closed } := by
  intro s' hs'
  obtain ⟨j, hj⟩ := List.getElem?_of_mem hs'
  dsimp only at hj
  rw [List.getElem?_set] at hj
  split_ifs at hj with hkj hlt
  · exact (Option.some.inj hj).symm
  · by_contra hne
    have hj' := h.alone j s' hj hne
    rw [h.alone k s hk hs] at hj'
    exact hkj (Option.some.inj hj')

lemma Tidy.timers_nil {k : ℕ} {s : ReadyState} (h : Tidy c) (hk : c.sockets[k]? = some s)
    (hs : s ≠ .closed) : c.timers = [] := by
  by_contra hne
  exact hs (h.quiet hne s (List.mem_of_getElem? hk))

lemma Tidy.opened {k : ℕ} (h : Tidy c) (hk : c.sockets[k]? = some .connecting) :
    Sound (({ c with sockets := c.sockets.set k .opened }).onopen env) := by
  have ht := h.timers_nil hk (by decide)
  have hlt := (List.getElem?_eq_some_iff.mp hk).1
  have hsound : Sound { c with
      sockets := c.sockets.set k .opened, reconnectAttempts := 0, state := .connected } := by
    refine ⟨⟨?_, ?_, ?_, ?_, ?_⟩, ?_⟩
    · intro j s hj hs
      dsimp only at hj
      rw [List.getElem?_set] at hj
      split_ifs at hj with hkj
      · exact hkj ▸ h.alone k .connecting hk (by decide)
      · exact h.alone j s hj hs
    · intro p hp
      simp [ht] at hp
    · simp [ht]
    · exact fun hne => absurd ht hne
    · exact Nat.zero_le _
    · intro _ hall _
      have hopened := hall .opened (List.mem_of_getElem? (List.getElem?_set_self hlt))
      cases hopened
  unfold OmniTunWS.onopen
  rcases setState_cases env .connected with heq | heq
  · exact heq ▸ hsound
  · exact heq ▸ hsound.close_sound

lemma Tidy.closed {k : ℕ} {s : ReadyState} (h : Tidy c) (hk : c.sockets[k]? = some s)
    (hs : s ≠ .closed) : Idle { c with sockets := c.sockets.set k .closed } :=
  ⟨h.allClosed_set hk hs, h.timers_nil hk hs, h.bounded⟩

lemma Idle.onclose (h : Idle c) : Sound (c.onclose env) := by
  unfold OmniTunWS.onclose
  split_ifs with hd
  · exact h.sound hd
  · exact (h.setState env .disconnected).scheduleReconnect env

lemma Tidy.fired {t : ℕ} (h : Tidy c) (ht : t ∈ c.timers.map Prod.fst) :
    Idle { c with timers := c.timers.filter fun p => p.1 != t } := by
  obtain ⟨p, hp, rfl⟩ := List.mem_map.mp ht
  have hne : c.timers ≠ [] := List.ne_nil_of_mem hp
  obtain ⟨q, hq⟩ := List.length_eq_one_iff.mp
    (Nat.le_antisymm h.one (List.length_pos_iff_ne_nil.mpr hne))
  rw [hq, List.mem_singleton] at hp
  subst hp
  exact ⟨h.quiet hne, by simp [hq], h.bounded⟩

lemma step_cases {e : Task × Env} (hs : step c e = some c') :
    (∃ k, e.1 = .opened k ∧ c.sockets[k]? = some .connecting ∧
      c' = ({ c with sockets := c.sockets.set k .opened }).onopen e.2) ∨
    (∃ k s, e.1 = .closed k ∧ c.sockets[k]? = some s ∧ s ≠ .closed ∧
      c' = ({ c with sockets := c.sockets.set k .closed }).onclose e.2) ∨
    (∃ t, e.1 = .fired t ∧ t ∈ c.timers.map Prod.fst ∧
      c' = ({ c with timers := c.timers.filter fun p => p.1 != t }).connect e.2) ∨
    e.1 = .close ∧ c' = c.close := by
  obtain ⟨task, env⟩ := e
  cases task with
  | opened k =>
    simp only [step] at hs
    split_ifs at hs with hk
    exact .inl ⟨k, rfl, hk, (Option.some.inj hs).symm⟩
  | closed k =>
    simp only [step] at hs
    split at hs
    · cases hs
    · cases hs
    next s hne hk =>
      refine .inr (.inl ⟨k, s, rfl, hk, ?_, (Option.some.inj hs).symm⟩)
      rintro rfl
      exact hne rfl
  | fired t =>
    simp only [step] at hs
    split_ifs at hs with ht
    exact .inr (.inr (.inl ⟨t, rfl, ht, (Option.some.inj hs).symm⟩))
  | close => exact .inr (.inr (.inr ⟨rfl, (Option.some.inj hs).symm⟩))

lemma Sound.after {e : Task × Env} (h : Sound c) (hs : step c e = some c') : Sound c' := by
  rcases step_cases hs with ⟨k, -, hk, rfl⟩ | ⟨k, s, -, hk, hne, rfl⟩ | ⟨t, -, ht, rfl⟩ | ⟨-, rfl⟩
  · exact h.opened e.2 hk
  · exact (h.closed hk hne).onclose e.2
  · exact (h.fired ht).connect e.2
  · exact h.close_sound

lemma construct_sound (throws : Bool) : Sound (construct throws) := by
  apply Idle.connect
  exact ⟨by simp [AllClosed], rfl, Nat.zero_le _⟩

/-! How often it connects again. -/

def work (c : OmniTunWS) : ℕ := maxReconnectAttempts - c.reconnectAttempts + c.timers.length

def isFired : Task × Env → Bool
  | (.fired _, _) => true
  | _ => false

def isOpened : Task × Env → Bool
  | (.opened _, _) => true
  | _ => false

lemma Idle.setState_work (h : Idle c) (s : ConnectionState) : work (c.setState env s) = work c := by
  have hidle := h.setState env s
  have hattempts : (c.setState env s).reconnectAttempts = c.reconnectAttempts := by
    rcases setState_cases (c := c) env s with heq | heq <;> simp [heq]
  simp only [work, hidle.timers, h.timers, hattempts]

lemma Idle.scheduleReconnect_work (h : Idle c) : work (c.scheduleReconnect env) ≤ work c := by
  have hidle := h.setState env .reconnecting
  have hwork := h.setState_work env .reconnecting
  unfold OmniTunWS.scheduleReconnect
  split_ifs with hd ha
  · exact Nat.le_refl _
  · exact Nat.le_refl _
  · simp only [work, hidle.timers, h.timers, List.length_nil, List.nil_append,
      List.length_singleton] at hwork ⊢
    omega

lemma Idle.connect_work (h : Idle c) : work (c.connect env) ≤ work c := by
  have hidle := h.setState env .connecting
  have hwork := h.setState_work env .connecting
  unfold OmniTunWS.connect
  split_ifs with hd ht
  · exact Nat.le_refl _
  · exact Nat.le_trans (hidle.scheduleReconnect_work env) (Nat.le_of_eq hwork)
  · exact Nat.le_of_eq hwork

lemma Sound.after_work {e : Task × Env} (h : Sound c) (hs : step c e = some c') :
    work c' + (if isFired e = true then 1 else 0) ≤
      work c + (if isOpened e = true then maxReconnectAttempts else 0) := by
  obtain ⟨task, env⟩ := e
  rcases step_cases hs with ⟨k, rfl, hk, rfl⟩ | ⟨k, s, rfl, hk, hne, rfl⟩ | ⟨t, rfl, ht, rfl⟩ |
    ⟨rfl, rfl⟩
  · have ht := h.timers_nil hk (by decide)
    have htimers : (({ c with sockets := c.sockets.set k .opened }).onopen env).timers = [] := by
      unfold OmniTunWS.onopen
      rcases setState_cases env .connected with heq | heq
      · rw [heq]
        exact ht
      · rw [heq, OmniTunWS.close_timers]
        dsimp only
        split <;> simp [ht]
    simp only [work, htimers, isFired, isOpened, List.length_nil]
    simp
    omega
  · have hidle := h.closed hk hne
    have hwork : work (({ c with sockets := c.sockets.set k .closed }).onclose env) ≤ work c := by
      unfold OmniTunWS.onclose
      split_ifs
      · exact Nat.le_refl _
      · have hschedule := (hidle.setState env .disconnected).scheduleReconnect_work env
        rwa [hidle.setState_work env] at hschedule
    simpa [isFired, isOpened] using hwork
  · have hidle := h.fired ht
    have hwork := hidle.connect_work env
    have hpos : 0 < c.timers.length := by
      obtain ⟨p, hp, -⟩ := List.mem_map.mp ht
      exact List.length_pos_of_mem hp
    have hnil := congrArg List.length hidle.timers
    simp only [List.length_nil] at hnil
    simp only [work, hnil] at hwork
    simp only [isFired, isOpened, if_true, work]
    simp
    omega
  · have ht := h.close_timers
    simp [work, ht, isFired, isOpened]

/-- Over every run the client has one socket or one timer at a time, waits as long as its attempts
say, has tried ten times when it has neither and is not closed, and connects again at most ten times
for each time that a connection was opened, and ten times more. -/
theorem reconnects_bounded (throws : Bool) (es : List (Task × Env))
    (hr : run step (construct throws) es = some c) :
    Sound c ∧ es.countP isFired ≤ 10 + 10 * es.countP isOpened := by
  have hcount := countP_add_le (P := Sound) (p := isFired) (q := isOpened)
    (construct_sound throws) hr fun s a t hs ht => ⟨hs.after ht, hs.after_work ht⟩
  refine ⟨run_invariant (construct_sound throws) hr fun s a t hs ht => hs.after ht, ?_⟩
  have hstart : work (construct throws) ≤ 10 := by
    cases throws <;> decide
  simp only [maxReconnectAttempts] at hcount
  omega

def quiet : Env := ⟨fun _ => false, false⟩

def oneReconnect : List (Task × Env) :=
  [(.opened 0, quiet), (.closed 0, quiet), (.fired 0, quiet), (.opened 1, quiet)]

theorem reconnects_bounded_once :
    ∃ c, run step (construct false) oneReconnect = some c ∧ c.state = .connected ∧ Sound c ∧
      oneReconnect.countP isFired ≤ 10 + 10 * oneReconnect.countP isOpened := by
  refine ⟨_, rfl, rfl, ?_⟩
  exact reconnects_bounded false oneReconnect rfl

/-! After `close`. -/

/-- A closed client stays so: none of its sockets opens again. -/
def Closed (c : OmniTunWS) : Prop :=
  c.destroyed = true → (∀ s ∈ c.sockets, s = .closing ∨ s = .closed) ∧ c.state = .disconnected

/-- A listener closes the client while it is told that it connects, and the socket is made. -/
def Reopens (c : OmniTunWS) (e : Task × Env) : Prop :=
  isFired e = true ∧ c.destroyed = false ∧ e.2.closes .connecting = true ∧ e.2.throws = false

instance (c : OmniTunWS) (e : Task × Env) : Decidable (Reopens c e) :=
  inferInstanceAs (Decidable (_ ∧ _))

lemma closed_of_alive (h : c.destroyed = false) : Closed c := fun hd => by simp [h] at hd

lemma Tidy.close_closed (h : Tidy c) : Closed c.close := by
  refine fun _ => ⟨fun s hs => ?_, rfl⟩
  obtain ⟨k, hk⟩ := List.getElem?_of_mem hs
  obtain ⟨s', hs', hcase⟩ := close_getElem hk
  rcases hcase with ⟨rfl, hws⟩ | ⟨rfl, -⟩
  · right
    by_contra hne
    exact hws (h.alone k s hs' hne)
  · cases s' <;> simp [ReadyState.close]

lemma Tidy.setState_closed (h : Tidy c) (hd : c.destroyed = false) (s : ConnectionState) :
    Closed (c.setState env s) := by
  rcases setState_cases env s with heq | heq
  · exact heq ▸ closed_of_alive hd
  · rw [heq]
    exact Tidy.close_closed ⟨h.alone, h.armed, h.one, h.quiet, h.bounded⟩

lemma Idle.scheduleReconnect_closed (h : Idle c) (hc : Closed c) :
    Closed (c.scheduleReconnect env) := by
  unfold OmniTunWS.scheduleReconnect
  split_ifs with hd ha
  · exact hc
  · exact hc
  · exact h.tidy.setState_closed env (by simpa using hd) .reconnecting

lemma opened_closed {k : ℕ} (h : Sound c) (hc : Closed c)
    (hk : c.sockets[k]? = some .connecting) :
    Closed (({ c with sockets := c.sockets.set k .opened }).onopen env) := by
  have hd : c.destroyed = false := by
    by_contra hd
    have hsockets := (hc (by simpa using hd)).1 .connecting (List.mem_of_getElem? hk)
    simp at hsockets
  have hopened := h.opened ⟨fun _ => false, false⟩ hk
  unfold OmniTunWS.onopen at hopened ⊢
  rcases setState_cases env .connected with heq | heq
  · exact heq ▸ closed_of_alive hd
  · exact heq ▸ Tidy.close_closed hopened.toTidy

lemma Idle.onclose_closed (h : Idle c) (hc : Closed c) : Closed (c.onclose env) := by
  unfold OmniTunWS.onclose
  split_ifs with hd
  · exact hc
  · apply (h.setState env .disconnected).scheduleReconnect_closed env
    exact h.tidy.setState_closed env (by simpa using hd) .disconnected

lemma Idle.connect_closed_iff (h : Idle c) (hc : Closed c) :
    Closed (c.connect env) ↔
      ¬ (c.destroyed = false ∧ env.closes .connecting = true ∧ env.throws = false) := by
  have hidle := h.setState env .connecting
  unfold OmniTunWS.connect
  split_ifs with hd ht
  · exact iff_of_true hc (by simp [hd])
  · have hclosed := h.tidy.setState_closed env (by simpa using hd) .connecting
    exact iff_of_true (hidle.scheduleReconnect_closed env hclosed) (by simp [ht])
  · have hd' : c.destroyed = false := by simpa using hd
    have ht' : env.throws = false := by simpa using ht
    unfold OmniTunWS.setState
    dsimp only
    split_ifs with hcloses
    · refine iff_of_false (fun hno => ?_) (by simp [hd', hcloses, ht'])
      have hsocket := (hno OmniTunWS.close_destroyed).1 .connecting (by simp)
      simp at hsocket
    · exact iff_of_true (closed_of_alive hd') (by simp [hcloses])

lemma Sound.closed_iff {e : Task × Env} (h : Sound c) (hc : Closed c) (hs : step c e = some c') :
    Closed c' ↔ ¬ Reopens c e := by
  obtain ⟨task, env⟩ := e
  rcases step_cases hs with ⟨k, rfl, hk, rfl⟩ | ⟨k, s, rfl, hk, hne, rfl⟩ | ⟨t, rfl, ht, rfl⟩ |
    ⟨rfl, rfl⟩
  · exact iff_of_true (opened_closed env h hc hk) (by simp [Reopens, isFired])
  · have hno : ¬ Reopens c (.closed k, env) := by simp [Reopens, isFired]
    refine iff_of_true ((h.closed hk hne).onclose_closed env fun hd => ?_) hno
    obtain ⟨hsockets, hstate⟩ := hc hd
    refine ⟨fun s hs => ?_, hstate⟩
    exact (List.mem_or_eq_of_mem_set hs).elim (hsockets s) .inr
  · have hiff := (h.fired ht).connect_closed_iff env hc
    simpa [Reopens, isFired] using hiff
  · exact iff_of_true h.close_closed (by simp [Reopens, isFired])

lemma destroyed_setState (hd : c.destroyed = true) (s : ConnectionState) :
    (c.setState env s).destroyed = true := by
  rcases setState_cases env s with heq | heq
  · exact heq ▸ hd
  · exact heq ▸ OmniTunWS.close_destroyed

lemma destroyed_step {e : Task × Env} (hd : c.destroyed = true) (hs : step c e = some c') :
    c'.destroyed = true := by
  rcases step_cases hs with ⟨k, -, -, rfl⟩ | ⟨k, s, -, -, -, rfl⟩ | ⟨t, -, -, rfl⟩ | ⟨-, rfl⟩
  · rw [OmniTunWS.onopen]
    apply destroyed_setState
    exact hd
  · rwa [OmniTunWS.onclose, if_pos hd]
  · rwa [OmniTunWS.connect, if_pos hd]
  · exact OmniTunWS.close_destroyed

/-- Over every run a closed client stays closed if and only if no listener closes it while it is
told of a connection that is then made; that it is to be closed is never taken back. -/
theorem closed_stays_closed_iff (throws : Bool) (es : List (Task × Env)) :
    (Always step Closed (construct throws) es ↔
      Guarded step (fun c e => ¬ Reopens c e) (construct throws) es) ∧
      ∀ (es' : List (Task × Env)) (c c' : OmniTunWS), run step c es' = some c' →
        c.destroyed = true → c'.destroyed = true := by
  have hclosed : Closed (construct throws) := by
    cases throws <;> exact closed_of_alive rfl
  constructor
  · apply always_iff_guarded hclosed (construct_sound throws)
    intro c e c' hc hsound hs
    exact ⟨hsound.closed_iff hc hs, fun _ => hsound.after hs⟩
  · intro es' c c' hr hd
    exact run_invariant (P := fun c : OmniTunWS => c.destroyed = true) hd hr
      fun _ _ _ hd hs => destroyed_step hd hs

end OmniTun.Web.Realtime
